import DpdkTcp.Lib.Places
import DpdkTcp.Send.Reselect
import DpdkTcp.Send.Step

/-!
# Which entries are taken for lost and sent again

Loss detection collects indexes, raises `lost` at them in a second pass and
hands them to `retransmit` in a third. The indexes are kept in sixteen bits.
As long as every entry a detector is after stands at an index that fits, the
indexes are the places of these entries: exactly they are marked, and each of
them is looked up once, marked. An entry further back is not marked at all.
-/

namespace DpdkTcp

/-- The RACK test: not reported, not taken for lost, not acknowledged, and found lost. -/
def TcpConn.rackEligible (conn : TcpConn) (nowNs : ℕ) (entry : RetransEntry) : Bool :=
  !entry.sacked && !entry.lost && !seqLe entry.endSeq conn.sndUna &&
    conn.rack.detectLost entry.xmitTsNs entry.endSeq nowNs conn.rack.reoWndUs

/-- The documented RTO test: at the left edge of the window, or old enough. -/
def TcpConn.rtoEligible (conn : TcpConn) (nowNs : ℕ) (entry : RetransEntry) : Bool :=
  !entry.sacked && !entry.lost && !seqLe entry.endSeq conn.sndUna &&
    (entry.seq == conn.sndUna ||
      rtoAgeExpired entry.xmitTsNs nowNs (conn.rttEst.srttUs.getD conn.rack.minRttUs)
        conn.rack.reoWndUs)

/-- Exactly the eligible entries are marked, and they are looked up by `retransmit`, with the
mark, once each and in order. -/
structure MarkedExactly (eligible : RetransEntry → Bool) (before marked : List RetransEntry)
    (picks : List Picked) : Prop where
  raised : marked = before.map fun entry => entry.markedLost (eligible entry)
  handed : picks.map Picked.entry =
    (before.filter eligible).map fun entry => entry.markedLost true

/-- Every eligible entry stands at an index below `2^16`. -/
def FitU16 (eligible : RetransEntry → Bool) (entries : List RetransEntry) : Prop :=
  ∀ index entry, entries[index]? = some entry → eligible entry = true → index < 65536

section Indexes

variable {eligible : RetransEntry → Bool} {entries : List RetransEntry}

theorem indexesWhere_eq_places (fit : FitU16 eligible entries) :
    indexesWhere eligible entries = Places.places eligible entries := by
  apply List.map_congr_left
  intro item member
  rcases List.mem_filter.mp member with ⟨present, accepted⟩
  exact Nat.mod_eq_of_lt (fit item.2 item.1 (List.mem_zipIdx_iff_getElem?.mp present) accepted)

theorem markLost_entries (retrans : SendRetrans) (indexes : List ℕ) :
    (retrans.markLost indexes).entries =
      retrans.entries.mapIdx fun index entry => entry.markedLost (decide (index ∈ indexes)) := by
  apply List.ext_getElem?
  intro index
  rw [getElem?_markLost, List.getElem?_mapIdx]

theorem markLost_places (retrans : SendRetrans) :
    (retrans.markLost (Places.places eligible retrans.entries)).entries =
      retrans.entries.map fun entry => entry.markedLost (eligible entry) :=
  Places.mapIdx_places retrans.entries fun entry => { entry with lost := true }

/-- An eligible entry at an index that does not fit is not marked. -/
theorem fit_of_raised (unmarked : ∀ entry, eligible entry = true → entry.lost = false)
    {retrans : SendRetrans}
    (raised : (retrans.markLost (indexesWhere eligible retrans.entries)).entries =
      retrans.entries.map fun entry => entry.markedLost (eligible entry)) :
    FitU16 eligible retrans.entries := by
  intro index entry found accepted
  by_contra large
  have missed : index ∉ indexesWhere eligible retrans.entries := by
    intro chosen
    rcases mem_indexesWhere.mp chosen with ⟨position, _, same, _, _⟩
    have small : asU16 position < 65536 := Nat.mod_lt position (by decide)
    omega
  have same := congrArg (fun entries => entries[index]?) raised
  simp only [markLost_entries, List.getElem?_mapIdx, List.getElem?_map, found, Option.map_some,
    decide_eq_false missed, accepted, Option.some.injEq] at same
  have flag := congrArg RetransEntry.lost same
  simp [RetransEntry.markedLost, unmarked entry accepted] at flag

end Indexes

/-! ### The calls of `retransmit` -/

/-- What `retransmit` looks up at an index. -/
def TcpConn.pickAt (conn : TcpConn) (handle : ConnHandle) (index : ℕ) : Option Picked :=
  conn.sndRetrans.entries[index]?.map fun entry => ⟨handle, entry, conn.sndUna⟩

namespace Engine

/-- Entries at the given indexes were looked up, and no others touched. -/
structure Resends (handle : ConnHandle) (conn : TcpConn) (indexes : List ℕ)
    (before after : Engine) : Prop where
  live : ∃ later, after.flowTable.get handle = some later ∧ later.sndUna = conn.sndUna ∧
    ∀ index, index ∉ indexes →
      later.sndRetrans.entries[index]? = conn.sndRetrans.entries[index]?
  picked : after.picked = before.picked ++ indexes.filterMap (conn.pickAt handle)

variable {handle : ConnHandle} {conn : TcpConn} {first second third : Engine}

theorem retransmit_resends (engine : Engine) (present : engine.flowTable.get handle = some conn)
    (index : ℕ) (env : RetransmitEnv) :
    Resends handle conn [index] engine (engine.retransmit handle index env) := by
  have unsent : TxChange engine (engine.retransmit handle index env) →
      ∃ later, (engine.retransmit handle index env).flowTable.get handle = some later ∧
        later.sndUna = conn.sndUna ∧ ∀ place, place ∉ [index] →
          later.sndRetrans.entries[place]? = conn.sndRetrans.entries[place]? := by
    intro change
    exact ⟨conn, by rw [change.flowTable]; exact present, rfl, fun _ _ => rfl⟩
  rcases retransmit_cases engine handle index env with
    ⟨change, picked, absent⟩ | ⟨live, entry, there, found, picked, sent⟩
  · refine ⟨unsent change, ?_⟩
    have nothing : conn.pickAt handle index = none := by
      rw [TcpConn.pickAt, absent conn present, Option.map_none]
    rw [picked, List.filterMap_cons, nothing]
    simp
  · rw [present] at there
    cases there
    refine ⟨?_, ?_⟩
    · rcases sent with ⟨change, _⟩ | ⟨_, pushed, change, sent⟩
      · exact unsent change
      · have stays : pushed.flowTable.get handle = some conn := by
          rw [change.flowTable]
          exact present
        rw [sent]
        refine ⟨_, (FlowTable.get_modify _ handle).trans ((if_pos rfl).trans
          (congrArg (Option.map _) stays)), rfl, ?_⟩
        intro place other
        refine (List.getElem?_modify ..).trans ?_
        have apart : index ≠ place := fun same => other (List.mem_singleton.mpr same.symm)
        cases conn.sndRetrans.entries[place]? with
        | none => rfl
        | some entry => exact congrArg some (if_neg apart)
    · have looked : conn.pickAt handle index = some ⟨handle, entry, conn.sndUna⟩ := by
        rw [TcpConn.pickAt, found, Option.map_some]
      rw [picked, List.filterMap_cons, looked]
      rfl

/-- One call, and then the rest of a loop over distinct indexes. -/
theorem Resends.cons {index : ℕ} {rest : List ℕ} (one : Resends handle conn [index] first second)
    (fresh : index ∉ rest)
    (more : ∀ later, second.flowTable.get handle = some later →
      Resends handle later rest second third) :
    Resends handle conn (index :: rest) first third := by
  rcases one.live with ⟨later, live, sndUna, others⟩
  have tail := more later live
  rcases tail.live with ⟨last, live', sndUna', others'⟩
  refine ⟨⟨last, live', sndUna'.trans sndUna, ?_⟩, ?_⟩
  · intro place outside
    rcases not_or.mp (mt List.mem_cons.mpr outside) with ⟨apart, beside⟩
    rw [others' place beside, others place (by simpa using apart)]
  · have same : rest.filterMap (later.pickAt handle) = rest.filterMap (conn.pickAt handle) := by
      apply List.filterMap_congr
      intro place member
      have apart : place ∉ [index] := by
        intro here
        rw [List.mem_singleton.mp here] at member
        exact fresh member
      rw [TcpConn.pickAt, TcpConn.pickAt, others place apart, sndUna]
    rw [tail.picked, one.picked, same, List.append_assoc, ← List.filterMap_append]
    rfl

theorem retransmitAll_resends {indexes : List ℕ} (distinct : indexes.Nodup)
    (engine : Engine) (present : engine.flowTable.get handle = some conn)
    (envs : ℕ → RetransmitEnv) :
    Resends handle conn indexes engine (engine.retransmitAll handle envs indexes) := by
  induction indexes generalizing engine conn envs with
  | nil => exact ⟨⟨conn, present, rfl, fun _ _ => rfl⟩, (List.append_nil _).symm⟩
  | cons index rest ih =>
      rcases List.nodup_cons.mp distinct with ⟨fresh, distinct⟩
      exact (retransmit_resends engine present index (envs 0)).cons fresh
        fun later live => ih distinct _ live _

theorem retransmitRackLost_resends {indexes : List ℕ} (distinct : indexes.Nodup)
    (engine : Engine) (present : engine.flowTable.get handle = some conn)
    (envs : ℕ → RetransmitEnv) :
    Resends handle conn indexes engine (engine.retransmitRackLost handle envs indexes) := by
  induction indexes generalizing engine conn envs with
  | nil => exact ⟨⟨conn, present, rfl, fun _ _ => rfl⟩, (List.append_nil _).symm⟩
  | cons index rest ih =>
      rcases List.nodup_cons.mp distinct with ⟨fresh, distinct⟩
      have resent := retransmit_resends engine present index (envs 0)
      -- what is reported in between is seen by no later call
      have reported : Resends handle conn [index] engine
          (if engine.cfg.tcpPerPacketEvents then
            ((engine.retransmit handle index (envs 0)).reportRetrans handle index
              (envs 0).nowNs).pushEvent (.tcpLossDetected handle .rack (envs 0).nowNs)
          else engine.retransmit handle index (envs 0)) := by
        split
        · refine ⟨?_, ?_⟩
          · rw [(pushEvent_change _ _).flowTable, reportRetrans_flowTable]
            exact resent.live
          · have quiet : Moved (fun _ _ => False) (engine.retransmit handle index (envs 0)) _ :=
              (reportRetrans_moved _ handle index (envs 0).nowNs).trans
                (pushEvent_moved _ (.tcpLossDetected handle .rack (envs 0).nowNs))
            rw [quiet.picked_eq]
            exact resent.picked
        · exact resent
      exact reported.cons fresh fun later live => ih distinct _ live fun turn => envs (turn + 1)

/-- The loop over the places of the eligible entries looks up exactly them, marked. -/
theorem Resends.handed {eligible : RetransEntry → Bool} {entries : List RetransEntry}
    (marked : conn.sndRetrans.entries = entries.map fun entry => entry.markedLost (eligible entry)) :
    ((Places.places eligible entries).filterMap (conn.pickAt handle)).map Picked.entry =
      (entries.filter eligible).map fun entry => entry.markedLost true := by
  have looked : ((Places.places eligible entries).filterMap (conn.pickAt handle)).map Picked.entry =
      (Places.places eligible entries).filterMap fun index =>
        entries[index]?.map fun entry => entry.markedLost (eligible entry) := by
    rw [List.map_filterMap]
    apply List.filterMap_congr
    intro index _
    rw [TcpConn.pickAt, Option.map_map, marked, List.getElem?_map, Option.map_map]
    rfl
  rw [looked, Places.filterMap_places]
  apply List.map_congr_left
  intro entry member
  rw [(List.mem_filter.mp member).2]

end Engine

/-! ### After an acknowledgment -/

theorem rackPass_lost (conn : TcpConn) (nowNs : ℕ) :
    (rackPass conn nowNs).2 =
      indexesWhere ((rackPass conn nowNs).1.rackEligible nowNs) conn.sndRetrans.entries := by
  have empty : conn.sndRetrans.isEmpty = true → conn.sndRetrans.entries = [] :=
    List.isEmpty_iff.mp
  dsimp only [rackPass]
  split
  · rename_i none
    rw [empty none]
    rfl
  · refine congrArg (indexesWhere · conn.sndRetrans.entries) (funext fun entry => ?_)
    rw [rackLost, Bool.not_or]
    rfl

theorem rackEligible_unmarked {conn : TcpConn} {nowNs : ℕ} (entry : RetransEntry)
    (eligible : conn.rackEligible nowNs entry = true) : entry.lost = false := by
  simp only [TcpConn.rackEligible, Bool.and_eq_true, Bool.not_eq_true'] at eligible
  exact eligible.1.1.2

theorem rtoEligible_unmarked {conn : TcpConn} {nowNs : ℕ} (entry : RetransEntry)
    (eligible : conn.rtoEligible nowNs entry = true) : entry.lost = false := by
  simp only [TcpConn.rtoEligible, Bool.and_eq_true, Bool.not_eq_true'] at eligible
  exact eligible.1.1.2

/-- What the established handler leaves of the RACK pass. -/
theorem Accepted.racePass {conn : TcpConn} {seg : ParsedSegment} {clock : Readings} {sendBuf : ℕ}
    {opts : TcpOpts} {sack : SackPass} {ack : AckPass}
    (accepted : Accepted conn seg clock sendBuf opts sack ack) (running : conn.state = .established)
    (mbufCtx : Option MbufInsertCtx) :
    (dispatch conn seg clock sendBuf mbufCtx).outcome.rackLostIndexes =
        (rackPass ack.conn clock.rack).2 ∧
      (dispatch conn seg clock sendBuf mbufCtx).conn.sndRetrans =
        ack.conn.sndRetrans.markLost (rackPass ack.conn clock.rack).2 ∧
      (dispatch conn seg clock sendBuf mbufCtx).conn.rackEligible clock.rack =
        (rackPass ack.conn clock.rack).1.rackEligible clock.rack := by
  rcases accepted.handleEstablished_eq mbufCtx with ⟨expired, processed⟩
  have data := (deliver_change (rackPass ack.conn clock.rack).1 seg mbufCtx).trans
    (takeFin_change seg (deliver (rackPass ack.conn clock.rack).1 seg mbufCtx))
  rw [dispatch, running]
  dsimp only
  rw [processed]
  dsimp only [establishedData]
  refine ⟨rfl, ?_, ?_⟩
  · rw [data.sndRetrans, rackPass_only]
  · rw [data.only]
    rfl

namespace Engine

variable (engine : Engine) {handle : ConnHandle} {conn : TcpConn}

/-- Behind the retransmissions no entry is looked up. -/
theorem tcpInput_picked (present : engine.flowTable.get handle = some conn) (seg : ParsedSegment)
    (mbufCtx : Option MbufInsertCtx) (env : InputEnv) :
    ∃ notified : Engine, notified.picked = engine.picked ∧
      notified.flowTable.get handle =
        some (dispatch conn seg env.clock engine.cfg.sendBufferBytes mbufCtx).conn ∧
      (engine.tcpInput handle seg mbufCtx env).picked =
        (notified.retransmitRackLost handle env.retransmits
          (dispatch conn seg env.clock engine.cfg.sendBufferBytes
            mbufCtx).outcome.rackLostIndexes).picked := by
  rcases tcpInput_eq engine handle present seg mbufCtx env with
    ⟨notified, _, picked, table, processed⟩
  refine ⟨notified, picked, ?_, ?_⟩
  · rw [table, FlowTable.get_set present, if_pos rfl]
  · rw [processed, (receiveSideAfter_conns _ handle _ env).2.1, sendSideAfter_picked]

/-- A segment that is processed marks and retransmits exactly the entries RACK is after, just if
none of them stands too far back. -/
theorem rack_marks_exactly_iff (present : engine.flowTable.get handle = some conn)
    (running : conn.state = .established) {seg : ParsedSegment} {env : InputEnv} {opts : TcpOpts}
    {sack : SackPass} {ack : AckPass}
    (accepted : Accepted conn seg env.clock engine.cfg.sendBufferBytes opts sack ack)
    (mbufCtx : Option MbufInsertCtx) {after : TcpConn}
    (dispatched : after =
      (dispatch conn seg env.clock engine.cfg.sendBufferBytes mbufCtx).conn) :
    (∃ picks, (engine.tcpInput handle seg mbufCtx env).picked = engine.picked ++ picks ∧
        MarkedExactly (after.rackEligible env.clock.rack) ack.conn.sndRetrans.entries
          after.sndRetrans.entries picks) ↔
      FitU16 (after.rackEligible env.clock.rack) ack.conn.sndRetrans.entries := by
  rcases accepted.racePass running mbufCtx with ⟨chosen, marked, eligible⟩
  rcases engine.tcpInput_picked present seg mbufCtx env with ⟨notified, picked, live, looked⟩
  rw [← dispatched] at marked eligible live
  rw [rackPass_lost, ← eligible] at marked
  rw [chosen, rackPass_lost, ← eligible] at looked
  have unmarked : ∀ entry, after.rackEligible env.clock.rack entry = true → entry.lost = false :=
    rackEligible_unmarked
  constructor
  · rintro ⟨_, _, exactly⟩
    refine fit_of_raised unmarked ?_
    rw [← marked]
    exact exactly.raised
  · intro fit
    rw [indexesWhere_eq_places fit] at marked looked
    have raised : after.sndRetrans.entries = ack.conn.sndRetrans.entries.map fun entry =>
        entry.markedLost (after.rackEligible env.clock.rack entry) := by
      rw [marked, markLost_places]
    have resends : Resends handle after
        (Places.places (after.rackEligible env.clock.rack) ack.conn.sndRetrans.entries) notified _ :=
      retransmitRackLost_resends (Places.places_nodup ack.conn.sndRetrans.entries) notified live
        env.retransmits
    refine ⟨_, looked.trans (resends.picked.trans (by rw [picked])), raised, ?_⟩
    exact Resends.handed raised

end Engine

/-- Only the established handler runs the RACK pass. -/
theorem handleSynSent_unraced (conn : TcpConn) (seg : ParsedSegment) (clock : Readings) :
    (handleSynSent conn seg clock).outcome.rackLostIndexes = [] := by
  unfold handleSynSent
  split
  · split <;> rfl
  · split
    · rfl
    · split
      · rfl
      · split
        · rfl
        · split <;> rfl

theorem dispatch_unraced {conn : TcpConn} {seg : ParsedSegment} {clock : Readings} {sendBuf : ℕ}
    (unprocessed : ¬ (conn.state = .established ∧
      ∃ opts sack ack, Accepted conn seg clock sendBuf opts sack ack))
    (mbufCtx : Option MbufInsertCtx) :
    (dispatch conn seg clock sendBuf mbufCtx).outcome.rackLostIndexes = [] := by
  have closing : (handleClosePath conn seg clock).outcome.rackLostIndexes = [] :=
    (handleClosePath_cases conn seg clock).1.rackLostIndexes
  cases state : conn.state with
  | synSent =>
      rw [dispatch, state]
      exact handleSynSent_unraced conn seg clock
  | established =>
      rw [dispatch, state]
      rcases handleEstablished_cases conn seg clock sendBuf mbufCtx with
        ⟨silent, _⟩ | ⟨opts, sack, ack, _, accepted, _⟩
      · exact silent.rackLostIndexes
      · exact absurd ⟨state, opts, sack, ack, accepted⟩ unprocessed
  | finWait1 | finWait2 | closing | lastAck | closeWait | timeWait =>
      rw [dispatch, state]
      exact closing
  | closed | listen | synReceived =>
      rw [dispatch, state]
      rfl

/-! ### After an RTO -/

theorem rtoLostIndexes_eq (conn : TcpConn) (nowNs : ℕ) :
    conn.rtoLostIndexes nowNs = indexesWhere (conn.rtoEligible nowNs) conn.sndRetrans.entries := by
  refine congrArg (indexesWhere · conn.sndRetrans.entries) (funext fun entry => ?_)
  rw [rtoLost, Bool.not_or]
  rfl

namespace Engine

variable (engine : Engine) {handle : ConnHandle} {conn : TcpConn}

theorem reported_picked (resent : Engine) (handle : ConnHandle) (chosen : List ℕ)
    (noBackoff : Bool) (env : RtoEnv) :
    ((resent.reportRto handle chosen env.eventNs).rearmOrGiveUp handle noBackoff env).picked =
      resent.picked := by
  have quiet : Moved (fun _ _ => False) resent
      ((resent.reportRto handle chosen env.eventNs).rearmOrGiveUp handle noBackoff env) :=
    (reportRto_moved resent handle chosen env.eventNs).trans
      (rearmOrGiveUp_moved _ handle noBackoff env)
  exact quiet.picked_eq

/-- The handler of the retransmission timer looks up what it marked, or the front entry. -/
theorem onRtoFire_picked (present : engine.flowTable.get handle = some conn) {firedId : TimerId}
    (own : conn.rtoTimerId = some firedId) (waiting : conn.sndRetrans.isEmpty = false)
    (env : RtoEnv) :
    ∃ (marked : Engine) (flagged : TcpConn), marked.picked = engine.picked ∧
      marked.flowTable.get handle = some flagged ∧
      flagged.sndRetrans = conn.sndRetrans.markLost (conn.rtoLostIndexes env.markNs) ∧
      (engine.onRtoFire handle firedId env).picked =
        (marked.retransmitAll handle env.retransmits
          (if conn.rtoLostIndexes env.markNs = [] then [0]
          else conn.rtoLostIndexes env.markNs)).picked := by
  refine ⟨engine.rtoMarked handle firedId (conn.rtoLostIndexes env.markNs), _, rfl,
    rtoMarked_conn present firedId _, rfl, ?_⟩
  rw [onRtoFire_eq present own waiting env]
  -- reporting and arming look up no entry
  exact reported_picked _ handle _ conn.rtoNoBackoff env

/-- An RTO fire marks and retransmits exactly the entries of the documented test, just if none of
them stands too far back and there is one: with none, the front entry is sent again. -/
theorem rto_marks_exactly_iff (present : engine.flowTable.get handle = some conn)
    {firedId : TimerId} (own : conn.rtoTimerId = some firedId) (env : RtoEnv) :
    (∃ picks, (engine.onRtoFire handle firedId env).picked = engine.picked ++ picks ∧
        MarkedExactly (conn.rtoEligible env.markNs) conn.sndRetrans.entries
          (conn.sndRetrans.markLost (conn.rtoLostIndexes env.markNs)).entries picks) ↔
      FitU16 (conn.rtoEligible env.markNs) conn.sndRetrans.entries ∧
        (conn.sndRetrans.entries = [] ∨
          ∃ entry ∈ conn.sndRetrans.entries, conn.rtoEligible env.markNs entry = true) := by
  have unmarked : ∀ entry, conn.rtoEligible env.markNs entry = true → entry.lost = false :=
    rtoEligible_unmarked
  cases waiting : conn.sndRetrans.isEmpty with
  | true =>
      have empty : conn.sndRetrans.entries = [] := List.isEmpty_iff.mp waiting
      refine iff_of_true ⟨[], ?_, ?_, ?_⟩ ⟨?_, .inl empty⟩
      · rw [onRtoFire, present]
        dsimp only
        rw [if_neg (not_not.mpr own), if_pos waiting, List.append_nil]
        rfl
      · rw [markLost_entries, empty]
        rfl
      · rw [empty]
        rfl
      · intro index entry found
        rw [empty] at found
        cases found
  | false =>
      rcases engine.onRtoFire_picked present own waiting env with
        ⟨marked, flagged, picked, live, raised, looked⟩
      rw [rtoLostIndexes_eq] at raised looked ⊢
      constructor
      · rintro ⟨picks, grown, exactly⟩
        refine ⟨fit_of_raised unmarked exactly.raised, .inr ?_⟩
        by_contra none
        have nothing : conn.sndRetrans.entries.filter (conn.rtoEligible env.markNs) = [] :=
          List.filter_eq_nil_iff.mpr fun entry member eligible => none ⟨entry, member, eligible⟩
        have unchosen : indexesWhere (conn.rtoEligible env.markNs) conn.sndRetrans.entries = [] := by
          rw [indexesWhere_eq_places (fit_of_raised unmarked exactly.raised), Places.places_eq_nil]
          exact nothing
        have front : ∃ entry, conn.sndRetrans.entries[0]? = some entry := by
          cases entries : conn.sndRetrans.entries with
          | nil =>
              rw [SendRetrans.isEmpty, entries] at waiting
              cases waiting
          | cons entry rest => exact ⟨entry, rfl⟩
        rcases front with ⟨entry, found⟩
        -- the front entry is looked up although it is not eligible
        rw [unchosen, if_pos rfl] at looked
        have resends := retransmitAll_resends (List.nodup_singleton 0) marked live env.retransmits
        have handed := exactly.handed
        rw [nothing, List.map_nil, List.map_eq_nil_iff] at handed
        rw [handed, looked, resends.picked, picked, List.append_right_inj,
          List.filterMap_cons, TcpConn.pickAt, raised, unchosen, markLost_nil, found] at grown
        cases grown
      · rintro ⟨fit, there⟩
        rw [indexesWhere_eq_places fit] at raised looked ⊢
        have chosen : Places.places (conn.rtoEligible env.markNs) conn.sndRetrans.entries ≠ [] := by
          rw [Ne, Places.places_eq_nil, List.filter_eq_nil_iff]
          rcases there with empty | ⟨entry, member, eligible⟩
          · rw [SendRetrans.isEmpty, empty] at waiting
            cases waiting
          · exact fun none => none entry member eligible
        rw [if_neg chosen] at looked
        have resends : Resends handle flagged
            (Places.places (conn.rtoEligible env.markNs) conn.sndRetrans.entries) marked _ :=
          retransmitAll_resends (Places.places_nodup conn.sndRetrans.entries) marked live
            env.retransmits
        have exactly : (conn.sndRetrans.markLost
            (Places.places (conn.rtoEligible env.markNs) conn.sndRetrans.entries)).entries = _ :=
          markLost_places conn.sndRetrans
        refine ⟨_, looked.trans (resends.picked.trans (by rw [picked])), exactly, ?_⟩
        exact Resends.handed (by rw [raised]; exact exactly)

/-- Loss marking is exact, after a segment and after an RTO, just if no eligible entry stands at
an index that does not fit into sixteen bits and the RTO does not have to fall back on the front
entry. A segment that the established handler does not process hands over nothing. -/
theorem loss_marking_exact_iff (present : engine.flowTable.get handle = some conn) :
    (∀ (seg : ParsedSegment) (env : InputEnv) (mbufCtx : Option MbufInsertCtx) (opts : TcpOpts)
        (sack : SackPass) (ack : AckPass) (after : TcpConn), conn.state = .established →
        Accepted conn seg env.clock engine.cfg.sendBufferBytes opts sack ack →
        after = (dispatch conn seg env.clock engine.cfg.sendBufferBytes mbufCtx).conn →
        ((∃ picks, (engine.tcpInput handle seg mbufCtx env).picked = engine.picked ++ picks ∧
            MarkedExactly (after.rackEligible env.clock.rack) ack.conn.sndRetrans.entries
              after.sndRetrans.entries picks) ↔
          FitU16 (after.rackEligible env.clock.rack) ack.conn.sndRetrans.entries)) ∧
      (∀ (seg : ParsedSegment) (env : InputEnv) (mbufCtx : Option MbufInsertCtx),
        ¬ (conn.state = .established ∧ ∃ opts sack ack,
            Accepted conn seg env.clock engine.cfg.sendBufferBytes opts sack ack) →
        (engine.tcpInput handle seg mbufCtx env).picked = engine.picked) ∧
      ∀ (firedId : TimerId) (env : RtoEnv), conn.rtoTimerId = some firedId →
        ((∃ picks, (engine.onRtoFire handle firedId env).picked = engine.picked ++ picks ∧
            MarkedExactly (conn.rtoEligible env.markNs) conn.sndRetrans.entries
              (conn.sndRetrans.markLost (conn.rtoLostIndexes env.markNs)).entries picks) ↔
          FitU16 (conn.rtoEligible env.markNs) conn.sndRetrans.entries ∧
            (conn.sndRetrans.entries = [] ∨
              ∃ entry ∈ conn.sndRetrans.entries, conn.rtoEligible env.markNs entry = true)) := by
  refine ⟨?_, ?_, ?_⟩
  · intro seg env mbufCtx opts sack ack after running accepted dispatched
    exact engine.rack_marks_exactly_iff present running accepted mbufCtx dispatched
  · intro seg env mbufCtx unprocessed
    rcases engine.tcpInput_picked present seg mbufCtx env with ⟨notified, picked, _, looked⟩
    rw [dispatch_unraced unprocessed mbufCtx] at looked
    exact looked.trans picked
  · intro firedId env own
    exact engine.rto_marks_exactly_iff present own env

end Engine

/-! ### Two entries, and more than an index can name -/

/-- Five milliseconds after the bytes went out. -/
def lateFire : RtoEnv :=
  ⟨10000000, fun _ => noHeaderMbuf, 10000000, 10000000, 10000000⟩

theorem sentThree_conn : sentThree.flowTable.get 1 = some sentThreeConn := by
  rfl

/-- Of two segments the first is sent once more, behind the second. -/
def resentFirst : Engine :=
  sentPair.retransmit 1 0 withHeaderMbuf

/-- Its connection. -/
def resentFirstConn : TcpConn :=
  (resentFirst.flowTable.get 1).getD (opened 100#32 200#32 1000 1000 5000)

/-- The peer acknowledges the first segment only. -/
def ackFirst : ParsedSegment :=
  peerSegment 201#32 104#32 TCP_ACK 5000 []

theorem ackFirst_accepted :
    ∃ opts sack ack, Accepted resentFirstConn ackFirst (inputAt 20000000).clock
      resentFirst.cfg.sendBufferBytes opts sack ack ∧ ack.conn.sndRetrans.entries.length = 2 := by
  refine ⟨_, _, _, ⟨rfl, ⟨_, _, rfl, rfl⟩, rfl⟩, rfl⟩

/-- RACK takes the second segment for lost, the RTO takes both. -/
theorem loss_marking_exact_iff_twice :
    (∃ (ack after : TcpConn) (picks : List Picked),
        (resentFirst.tcpInput 1 ackFirst none (inputAt 20000000)).picked =
          resentFirst.picked ++ picks ∧
        MarkedExactly (after.rackEligible 20000000) ack.sndRetrans.entries
          after.sndRetrans.entries picks ∧
        after.sndRetrans.entries.map RetransEntry.lost = [false, true]) ∧
      ∃ picks, (resentFirst.onRtoFire 1 ⟨0, 0⟩ lateFire).picked = resentFirst.picked ++ picks ∧
        MarkedExactly (resentFirstConn.rtoEligible lateFire.markNs)
          resentFirstConn.sndRetrans.entries
          (resentFirstConn.sndRetrans.markLost
            (resentFirstConn.rtoLostIndexes lateFire.markNs)).entries picks ∧
        resentFirstConn.rtoLostIndexes lateFire.markNs = [0, 1] := by
  have present : resentFirst.flowTable.get 1 = some resentFirstConn := by rfl
  rcases resentFirst.loss_marking_exact_iff present with ⟨raced, _, fired⟩
  constructor
  · rcases ackFirst_accepted with ⟨opts, sack, ack, accepted, two⟩
    have fit : FitU16 ((dispatch resentFirstConn ackFirst (inputAt 20000000).clock
        resentFirst.cfg.sendBufferBytes none).conn.rackEligible 20000000)
        ack.conn.sndRetrans.entries := by
      intro index entry found _
      have inside := (List.getElem?_eq_some_iff.mp found).1
      omega
    rcases (raced ackFirst (inputAt 20000000) none opts sack ack _ rfl accepted rfl).mpr fit
      with ⟨picks, looked, marked⟩
    exact ⟨ack.conn, _, picks, looked, marked, by decide⟩
  · have fit : FitU16 (resentFirstConn.rtoEligible lateFire.markNs)
        resentFirstConn.sndRetrans.entries := by
      intro index entry found _
      have inside : index < 2 := (List.getElem?_eq_some_iff.mp found).1
      omega
    have front : ∃ entry ∈ resentFirstConn.sndRetrans.entries,
        resentFirstConn.rtoEligible lateFire.markNs entry = true := by decide
    rcases (fired ⟨0, 0⟩ lateFire rfl).mpr ⟨fit, .inr front⟩ with ⟨picks, looked, marked⟩
    exact ⟨picks, looked, marked, by decide⟩

/-- One byte a segment, and the peer reported all but the first and the last. -/
def longFlight : TcpConn :=
  { sentThreeConn with
    sndRetrans := ⟨(List.range 65537).map fun place =>
      { newEntry (101#32 + BitVec.ofNat 32 place) 1 57 1 5000000 with
        sacked := decide (0 < place) && decide (place < 65536) }⟩ }

/-- The last entry is never marked: its index becomes the one of the first. -/
theorem longFlight_marks_front :
    ¬ ∃ picks, ((sentThree.modifyConn 1 fun _ => longFlight).onRtoFire 1 ⟨0, 0⟩ lateFire).picked =
        (sentThree.modifyConn 1 fun _ => longFlight).picked ++ picks ∧
      MarkedExactly (longFlight.rtoEligible lateFire.markNs) longFlight.sndRetrans.entries
        (longFlight.sndRetrans.markLost (longFlight.rtoLostIndexes lateFire.markNs)).entries picks := by
  intro exactly
  have present : (sentThree.modifyConn 1 fun _ => longFlight).flowTable.get 1 = some longFlight :=
    (FlowTable.get_modify _ 1).trans ((if_pos rfl).trans (congrArg _ sentThree_conn))
  have own : longFlight.rtoTimerId = some ⟨0, 0⟩ := rfl
  have fit := (((sentThree.modifyConn 1 fun _ => longFlight).rto_marks_exactly_iff present own
    lateFire).mp exactly).1
  have last : longFlight.sndRetrans.entries[65536]? =
      some (newEntry (101#32 + BitVec.ofNat 32 65536) 1 57 1 5000000) := by
    simp [longFlight, newEntry]
  exact absurd (fit 65536 _ last (by decide)) (by decide)

end DpdkTcp
