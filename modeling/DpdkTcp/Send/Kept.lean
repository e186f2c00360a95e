import DpdkTcp.Send.Transmit
import DpdkTcp.Model.Host
import DpdkTcp.Input.Stages
import Mathlib.Data.List.Forall2

/-!
# Changes that keep the send side

Most calls of the engine leave the two edges of the send window alone and
touch an entry of `snd_retrans` only in its flags, its time stamps and its
transmission count. `Moved` says this of two states of the engine, and says
of every entry `retransmit` looked up in between which one it was.
-/

namespace DpdkTcp

/-- The same segment, transmitted at least as often. -/
structure EntryKept (before after : RetransEntry) : Prop where
  seq : after.seq = before.seq
  len : after.len = before.len
  mbuf : after.mbuf = before.mbuf
  xmitCount : min before.xmitCount 65535 ≤ after.xmitCount

namespace EntryKept

variable {first second third : RetransEntry}

theorem refl (entry : RetransEntry) : EntryKept entry entry :=
  ⟨rfl, rfl, rfl, Nat.min_le_left _ _⟩

theorem trans (left : EntryKept first second) (right : EntryKept second third) :
    EntryKept first third := by
  refine ⟨right.seq.trans left.seq, right.len.trans left.len, right.mbuf.trans left.mbuf, ?_⟩
  have grown := left.xmitCount
  have grownAgain := right.xmitCount
  omega

theorem endSeq (kept : EntryKept first second) : second.endSeq = first.endSeq := by
  rw [RetransEntry.endSeq, kept.seq, kept.len, ← RetransEntry.endSeq]

end EntryKept

theorem entryKept_retransmitted (entry : RetransEntry) (nowNs : ℕ) :
    EntryKept entry (entry.retransmitted nowNs) := by
  refine ⟨rfl, rfl, rfl, ?_⟩
  dsimp only [RetransEntry.retransmitted]
  omega

/-- Entry by entry the same segments. -/
abbrev EntriesKept (before after : List RetransEntry) : Prop :=
  List.Forall₂ EntryKept before after

namespace EntriesKept

variable {first second third : List RetransEntry}

theorem refl (entries : List RetransEntry) : EntriesKept entries entries :=
  List.forall₂_same.mpr fun entry _ => EntryKept.refl entry

theorem trans (left : EntriesKept first second) (right : EntriesKept second third) :
    EntriesKept first third := by
  induction left generalizing third with
  | nil => exact right
  | cons head _ ih =>
      cases right with
      | cons nextHead nextTail => exact .cons (head.trans nextHead) (ih nextTail)

theorem getElem? (kept : EntriesKept first second) {index : ℕ} {entry : RetransEntry}
    (found : second[index]? = some entry) :
    ∃ original, first[index]? = some original ∧ EntryKept original entry := by
  induction kept generalizing index with
  | nil => simp at found
  | cons head _ ih =>
      cases index with
      | zero =>
          cases found
          exact ⟨_, rfl, head⟩
      | succ index => exact ih found

theorem getElem?_later (kept : EntriesKept first second) {index : ℕ} {entry : RetransEntry}
    (found : first[index]? = some entry) :
    ∃ later, second[index]? = some later ∧ EntryKept entry later := by
  induction kept generalizing index with
  | nil => simp at found
  | cons head _ ih =>
      cases index with
      | zero =>
          cases found
          exact ⟨_, rfl, head⟩
      | succ index => exact ih found

theorem isEmpty (kept : EntriesKept first second) : second.isEmpty = first.isEmpty := by
  cases kept <;> rfl

theorem mapIdx {change : ℕ → RetransEntry → RetransEntry}
    (keeps : ∀ index entry, EntryKept entry (change index entry)) (entries : List RetransEntry) :
    EntriesKept entries (entries.mapIdx change) := by
  induction entries generalizing change with
  | nil => exact .nil
  | cons entry rest ih =>
      rw [List.mapIdx_cons]
      exact .cons (keeps 0 entry) (ih fun index => keeps (index + 1))

theorem modify {change : RetransEntry → RetransEntry}
    (keeps : ∀ entry, EntryKept entry (change entry)) (entries : List RetransEntry)
    (index : ℕ) : EntriesKept entries (entries.modify index change) := by
  induction entries generalizing index with
  | nil => cases index <;> exact .nil
  | cons entry rest ih =>
      cases index with
      | zero => exact .cons (keeps entry) (refl rest)
      | succ index => exact .cons (EntryKept.refl entry) (ih index)

/-- Pruning looks at the ends only. -/
theorem dropWhile (kept : EntriesKept first second) (sndUna : Seq) :
    EntriesKept (first.dropWhile fun entry => seqLe entry.endSeq sndUna)
      (second.dropWhile fun entry => seqLe entry.endSeq sndUna) := by
  induction kept with
  | nil => exact .nil
  | cons head tail ih =>
      simp only [List.dropWhile_cons, head.endSeq]
      split
      · exact ih
      · exact .cons head tail

end EntriesKept

theorem entriesKept_of_unsacked {first second : List RetransEntry}
    (same : second.map RetransEntry.unsacked = first.map RetransEntry.unsacked) :
    EntriesKept first second := by
  induction first generalizing second with
  | nil =>
      rw [List.map_nil, List.map_eq_nil_iff] at same
      rw [same]
      exact .nil
  | cons entry rest ih =>
      rw [List.map_cons, List.map_eq_cons_iff] at same
      rcases same with ⟨later, others, rfl, equal, restEqual⟩
      refine .cons ?_ (ih restEqual)
      rcases later with ⟨⟩
      rcases entry with ⟨⟩
      simp only [RetransEntry.unsacked, RetransEntry.mk.injEq] at equal
      rcases equal with ⟨rfl, rfl, rfl, _, rfl, _⟩
      exact ⟨rfl, rfl, rfl, Nat.min_le_left _ _⟩

theorem entriesKept_markLost (retrans : SendRetrans) (indexes : List ℕ) :
    EntriesKept retrans.entries (retrans.markLost indexes).entries := by
  apply EntriesKept.mapIdx
  intro index entry
  split
  · exact ⟨rfl, rfl, rfl, Nat.min_le_left _ _⟩
  · exact EntryKept.refl entry

/-! ### States -/

/-- How the state moves once the handshake is over: it stays, it goes on to a
closing state, or the connection is closed. -/
def TcpState.Later (before after : TcpState) : Prop :=
  after = before ∨ after = .closed ∨
    before.synchronized = true ∧ after.synchronized = true ∧ after ≠ .established

namespace TcpState.Later

variable {first second third : TcpState}

theorem refl (state : TcpState) : Later state state :=
  Or.inl rfl

theorem trans (left : Later first second) (right : Later second third) : Later first third := by
  rcases right with rfl | rfl | ⟨running, later⟩
  · exact left
  · exact Or.inr (Or.inl rfl)
  · refine Or.inr (Or.inr ⟨?_, later⟩)
    rcases left with rfl | rfl | ⟨started, _⟩
    · exact running
    · cases running
    · exact started

theorem eq_synSent (later : Later first second) (opening : second = .synSent) :
    first = .synSent := by
  rcases later with rfl | rfl | ⟨_, running, _⟩
  · exact opening
  · cases opening
  · rw [opening] at running
    cases running

theorem eq_established (later : Later first second) (running : second = .established) :
    first = .established := by
  rcases later with rfl | rfl | ⟨_, _, left⟩
  · exact running
  · cases running
  · exact absurd running left

theorem synchronized (later : Later first second) (running : second.synchronized = true) :
    first.synchronized = true := by
  rcases later with rfl | rfl | ⟨started, _⟩
  · exact running
  · cases running
  · exact started

end TcpState.Later

/-! ### Connections -/

/-- The send side is that of `before`, with the given entries. -/
structure SameSend (entries : List RetransEntry) (before after : TcpConn) : Prop where
  sndUna : after.sndUna = before.sndUna
  sndNxt : after.sndNxt = before.sndNxt
  sndWnd : after.sndWnd = before.sndWnd
  wsShiftIn : after.wsShiftIn = before.wsShiftIn
  entries : EntriesKept entries after.sndRetrans.entries

theorem SameSend.trans {entries : List RetransEntry} {first second third : TcpConn}
    (left : SameSend entries first second)
    (right : SameSend second.sndRetrans.entries second third) : SameSend entries first third :=
  ⟨right.sndUna.trans left.sndUna, right.sndNxt.trans left.sndNxt,
    right.sndWnd.trans left.sndWnd, right.wsShiftIn.trans left.wsShiftIn,
    left.entries.trans right.entries⟩

/-- What the engine may change of a connection besides `dispatch`, `send_bytes` and
`close_conn`: the timers, the flags and counts of the given entries, what was
delivered and what was last advertised; and it may close the connection. -/
structure KeptAs (entries : List RetransEntry) (before after : TcpConn) : Prop where
  only : after =
    { before with
      state := after.state
      recv := { before.recv with bytes := after.recv.bytes }
      timeWaitDeadlineNs := after.timeWaitDeadlineNs
      lastAdvertisedWnd := after.lastAdvertisedWnd
      lastSackTrigger := after.lastSackTrigger
      timerIds := after.timerIds
      sndRetrans := after.sndRetrans
      rttEst := { before.rttEst with rtoUs := after.rttEst.rtoUs }
      rtoTimerId := after.rtoTimerId
      tlpTimerId := after.tlpTimerId
      synRetransCount := after.synRetransCount
      synRetransTimerId := after.synRetransTimerId
      tlpConsecutiveProbesFired := after.tlpConsecutiveProbesFired
      tlpRttSampleSeenSinceLastTlp := after.tlpRttSampleSeenSinceLastTlp
      tlpRecentProbes := after.tlpRecentProbes
      tlpRecentProbesNextSlot := after.tlpRecentProbesNextSlot
      forceTwSkip := after.forceTwSkip
      deliveredSegments := after.deliveredSegments }
  entries : EntriesKept entries after.sndRetrans.entries
  closes : after.state = before.state ∨ after.state = .closed

/-- What the engine may change of a connection, its own entries given. -/
abbrev Kept (before after : TcpConn) : Prop :=
  KeptAs before.sndRetrans.entries before after

theorem Kept.refl (conn : TcpConn) : Kept conn conn :=
  ⟨rfl, EntriesKept.refl _, Or.inl rfl⟩

namespace KeptAs

variable {entries : List RetransEntry} {first second third : TcpConn}

/-- The second change may be one of other entries that come from the given ones. -/
theorem andThen {others others' : List RetransEntry} (left : KeptAs others first second)
    (right : KeptAs others' second third) (same : EntriesKept entries others') :
    KeptAs entries first third := by
  refine ⟨?_, same.trans right.entries, ?_⟩
  · rw [right.only, left.only]
  · rcases right.closes with same | closed
    · rw [same]
      exact left.closes
    · exact Or.inr closed

theorem trans (left : KeptAs entries first second) (right : Kept second third) :
    KeptAs entries first third :=
  left.andThen right left.entries

theorem send (kept : KeptAs entries first second) : SameSend entries first second := by
  refine ⟨?_, ?_, ?_, ?_, kept.entries⟩ <;> rw [kept.only]

theorem state (kept : KeptAs entries first second) : first.state.Later second.state := by
  rcases kept.closes with same | closed
  · exact Or.inl same
  · exact Or.inr (Or.inl closed)

end KeptAs

theorem kept_resent (conn : TcpConn) (index nowNs : ℕ) : Kept conn (conn.resent index nowNs) :=
  ⟨rfl, EntriesKept.modify (fun entry => entryKept_retransmitted entry nowNs) _ index,
    Or.inl rfl⟩

/-! ### The engine -/

namespace FlowTable

theorem get_remove (table : FlowTable) (handle other : ConnHandle) :
    (table.remove handle).get other = if other = handle then none else table.get other := by
  unfold remove
  cases present : table.get handle with
  | none =>
      dsimp only
      split
      · rename_i same
        rw [same, present]
      · rfl
  | some conn => exact get_setSlot present none _ other

end FlowTable

namespace Engine

/-- The entry of a call of `retransmit` stood in `snd_retrans`, at an allowed index. -/
def PickedFrom (engine : Engine) (allowed : ConnHandle → ℕ → Prop) (pick : Picked) : Prop :=
  ∃ conn index entry, engine.flowTable.get pick.handle = some conn ∧
    pick.sndUna = conn.sndUna ∧ allowed pick.handle index ∧
    conn.sndRetrans.entries[index]? = some entry ∧ EntryKept entry pick.entry

/-- Connections are kept or removed, and `retransmit` was called on allowed indexes only. -/
structure Moved (allowed : ConnHandle → ℕ → Prop) (before after : Engine) : Prop where
  cfg : after.cfg = before.cfg
  conns : ∀ handle conn', after.flowTable.get handle = some conn' →
    ∃ conn, before.flowTable.get handle = some conn ∧ Kept conn conn'
  picks : ∃ picks, after.picked = before.picked ++ picks ∧
    ∀ pick ∈ picks, before.PickedFrom allowed pick

namespace Moved

variable {allowed : ConnHandle → ℕ → Prop} {first second third : Engine}

theorem of_same (cfg : second.cfg = first.cfg) (flowTable : second.flowTable = first.flowTable)
    (picked : second.picked = first.picked) : Moved allowed first second := by
  refine ⟨cfg, ?_, [], ?_, ?_⟩
  · intro handle conn' present
    rw [flowTable] at present
    exact ⟨conn', present, Kept.refl conn'⟩
  · simpa using picked
  · simp

theorem refl (engine : Engine) : Moved allowed engine engine :=
  of_same rfl rfl rfl

theorem trans (left : Moved allowed first second) (right : Moved allowed second third) :
    Moved allowed first third := by
  rcases left.picks with ⟨picks, picked, from_first⟩
  rcases right.picks with ⟨more, pickedMore, from_second⟩
  refine ⟨right.cfg.trans left.cfg, ?_, picks ++ more, ?_, ?_⟩
  · intro handle conn'' present
    rcases right.conns handle conn'' present with ⟨conn', present', kept'⟩
    rcases left.conns handle conn' present' with ⟨conn, present, kept⟩
    exact ⟨conn, present, kept.trans kept'⟩
  · rw [pickedMore, picked, List.append_assoc]
  · intro pick member
    rcases List.mem_append.mp member with early | late
    · exact from_first pick early
    · rcases from_second pick late with ⟨conn', index, entry', present', sndUna, may, found, same⟩
      rcases left.conns _ conn' present' with ⟨conn, present, kept⟩
      rcases kept.send.entries.getElem? found with ⟨entry, original, same'⟩
      exact ⟨conn, index, entry, present, sndUna.trans kept.send.sndUna, may, original,
        same'.trans same⟩

theorem mono {wider : ConnHandle → ℕ → Prop} (moved : Moved allowed first second)
    (implies : ∀ handle index, allowed handle index → wider handle index) :
    Moved wider first second := by
  rcases moved.picks with ⟨picks, picked, origin⟩
  refine ⟨moved.cfg, moved.conns, picks, picked, ?_⟩
  intro pick member
  rcases origin pick member with ⟨conn, index, entry, present, sndUna, may, rest⟩
  exact ⟨conn, index, entry, present, sndUna, implies _ _ may, rest⟩

theorem picked_eq (moved : Moved (fun _ _ => False) first second) :
    second.picked = first.picked := by
  rcases moved.picks with ⟨picks, picked, origin⟩
  cases picks with
  | nil => rw [picked, List.append_nil]
  | cons pick rest =>
      rcases origin pick List.mem_cons_self with ⟨_, _, _, _, _, impossible, _⟩
      exact impossible.elim

end Moved

variable {allowed : ConnHandle → ℕ → Prop} (engine : Engine) (handle : ConnHandle)

theorem TxChange.moved {before after : Engine} (change : TxChange before after)
    (picked : after.picked = before.picked) : Moved allowed before after :=
  .of_same change.cfg change.flowTable picked

theorem pushEvent_moved (event : InternalEvent) : Moved allowed engine (engine.pushEvent event) :=
  .of_same rfl rfl rfl

theorem releaseMbufs_moved (addrs : List ℕ) :
    Moved allowed engine (engine.releaseMbufs addrs) := by
  rw [releaseMbufs_only]
  exact .of_same rfl rfl rfl

theorem drainTxPendingData_moved (sent : ℕ) :
    Moved allowed engine (engine.drainTxPendingData sent) :=
  (drainTxPendingData_change engine sent).moved (drainTxPendingData_picked engine sent)

theorem cancelTimers_only (ids : List TimerId) :
    engine.cancelTimers ids =
      { engine with timerWheel := (engine.cancelTimers ids).timerWheel } := by
  unfold cancelTimers
  induction ids generalizing engine with
  | nil => rfl
  | cons id rest ih =>
      rw [List.foldl_cons, ih (engine.cancelTimer id)]
      rfl

theorem cancelTimers_moved (ids : List TimerId) :
    Moved allowed engine (engine.cancelTimers ids) := by
  rw [cancelTimers_only]
  exact .of_same rfl rfl rfl

/-- A change of one connection that keeps its send side. -/
theorem modifyConn_moved (change : TcpConn → TcpConn)
    (keeps : ∀ conn, engine.flowTable.get handle = some conn → Kept conn (change conn)) :
    Moved allowed engine (engine.modifyConn handle change) := by
  refine ⟨rfl, ?_, [], by simp [modifyConn], by simp⟩
  intro other conn' present
  rw [modifyConn, FlowTable.get_modify] at present
  split at present
  · rename_i same
    rcases Option.map_eq_some_iff.mp present with ⟨conn, live, rfl⟩
    rw [same]
    exact ⟨conn, live, keeps conn live⟩
  · exact ⟨conn', present, Kept.refl conn'⟩

theorem dropConn_moved : Moved allowed engine (engine.dropConn handle) := by
  refine ⟨rfl, ?_, [], by simp [dropConn], by simp⟩
  intro other conn' present
  rw [dropConn, FlowTable.get_remove] at present
  split at present
  · cases present
  · exact ⟨conn', present, Kept.refl conn'⟩

theorem close_moved (nowNs : ℕ) :
    Moved allowed engine (engine.transitionConn handle .closed nowNs) := by
  dsimp only [transitionConn]
  split
  · exact .refl engine
  · split
    · exact .refl engine
    · refine .trans ?_ (pushEvent_moved _ _)
      apply modifyConn_moved
      intro conn _
      exact ⟨rfl, EntriesKept.refl _, Or.inr rfl⟩

theorem armRto_moved (nowNs : ℕ) : Moved allowed engine (engine.armRto handle nowNs) := by
  dsimp only [armRto]
  split
  · exact .refl engine
  · split
    · refine .trans ?_ (modifyConn_moved _ handle _ ?_)
      · exact .of_same rfl rfl rfl
      · intro conn _
        exact ⟨rfl, EntriesKept.refl _, Or.inl rfl⟩
    · exact .refl engine

theorem armTlpPto_moved (nowNs : ℕ) : Moved allowed engine (engine.armTlpPto handle nowNs) := by
  dsimp only [armTlpPto]
  split
  · exact .refl engine
  · split
    · refine .trans ?_ (modifyConn_moved _ handle _ ?_)
      · exact .of_same rfl rfl rfl
      · intro conn _
        exact ⟨rfl, EntriesKept.refl _, Or.inl rfl⟩
    · exact .refl engine

theorem armSynRetrans_moved (nowNs delayUs : ℕ) :
    Moved allowed engine (engine.armSynRetrans handle nowNs delayUs) := by
  refine .trans ?_ (modifyConn_moved _ handle _ ?_)
  · exact .of_same rfl rfl rfl
  · intro conn _
    exact ⟨rfl, EntriesKept.refl _, Or.inl rfl⟩

theorem stopRto_moved : Moved allowed engine (engine.stopRto handle) := by
  unfold stopRto
  split
  · exact .refl engine
  · refine .trans ?_ (modifyConn_moved _ handle _ ?_)
    · exact .of_same rfl rfl rfl
    · intro conn _
      exact ⟨rfl, EntriesKept.refl _, Or.inl rfl⟩

theorem stopTlp_moved : Moved allowed engine (engine.stopTlp handle) := by
  unfold stopTlp
  split
  · exact .refl engine
  · refine .trans ?_ (modifyConn_moved _ handle _ ?_)
    · exact .of_same rfl rfl rfl
    · intro conn _
      exact ⟨rfl, EntriesKept.refl _, Or.inl rfl⟩

theorem removeConn_moved : Moved allowed engine (engine.removeConn handle) := by
  dsimp only [removeConn]
  split
  · exact .refl engine
  · rename_i conn present
    exact (cancelTimers_moved engine conn.allTimerIds).trans (dropConn_moved _ handle)

theorem reportRetrans_moved (index nowNs : ℕ) :
    Moved allowed engine (engine.reportRetrans handle index nowNs) := by
  unfold reportRetrans
  split
  · exact .refl engine
  · split
    · exact .refl engine
    · exact pushEvent_moved _ _

/-- A call of `retransmit` looks up the entry at its index. -/
theorem reportRetrans_flowTable (index nowNs : ℕ) :
    (engine.reportRetrans handle index nowNs).flowTable = engine.flowTable := by
  unfold reportRetrans
  split
  · rfl
  · split
    · rfl
    · exact (pushEvent_change _ _).flowTable

theorem retransmit_moved (index : ℕ) (env : RetransmitEnv) (may : allowed handle index) :
    Moved allowed engine (engine.retransmit handle index env) := by
  rcases retransmit_cases engine handle index env with
    ⟨change, picked, _⟩ | ⟨conn, entry, present, found, picked, ended⟩
  · exact change.moved picked
  · have origin : ∀ pick ∈ [(⟨handle, entry, conn.sndUna⟩ : Picked)],
        engine.PickedFrom allowed pick := by
      intro pick member
      rcases List.mem_singleton.mp member with rfl
      exact ⟨conn, index, entry, present, rfl, may, found, EntryKept.refl entry⟩
    rcases ended with ⟨change, _⟩ | ⟨_, pushed, change, sent⟩
    · refine ⟨change.cfg, ?_, _, picked, origin⟩
      intro other conn' live
      rw [change.flowTable] at live
      exact ⟨conn', live, Kept.refl conn'⟩
    · have resent : Moved allowed pushed (pushed.modifyConn handle _) :=
        modifyConn_moved pushed handle (fun conn => conn.resent index env.nowNs)
          fun conn _ => kept_resent conn index env.nowNs
      refine ⟨?_, ?_, _, picked, origin⟩
      · rw [sent]
        exact resent.cfg.trans change.cfg
      · intro other conn' live
        rw [sent] at live
        rcases resent.conns other conn' live with ⟨conn, live', kept⟩
        rw [change.flowTable] at live'
        exact ⟨conn, live', kept⟩

theorem retransmitAll_moved (envs : ℕ → RetransmitEnv) (indexes : List ℕ)
    (may : ∀ index ∈ indexes, allowed handle index) :
    Moved allowed engine (engine.retransmitAll handle envs indexes) := by
  induction indexes generalizing engine envs with
  | nil => exact .refl engine
  | cons index rest ih =>
      simp only [List.mem_cons, forall_eq_or_imp] at may
      exact (retransmit_moved engine handle index (envs 0) may.1).trans
        (ih _ (fun turn => envs (turn + 1)) may.2)

/-! ### Handlers of fired timers -/

theorem transitionConn_get_of_ne (target : TcpState) (nowNs : ℕ) {other : ConnHandle}
    (differs : other ≠ handle) :
    (engine.transitionConn handle target nowNs).flowTable.get other =
      engine.flowTable.get other := by
  dsimp only [transitionConn]
  split
  · rfl
  · split
    · rfl
    · dsimp only [pushEvent, modifyConn]
      rw [FlowTable.get_modify, if_neg differs]

/-- The closed connection leaves the table. -/
theorem forceCloseEtimedout_get (nowNs : ℕ) (other : ConnHandle) :
    (engine.forceCloseEtimedout handle nowNs).flowTable.get other =
      if other = handle then none else engine.flowTable.get other := by
  dsimp only [forceCloseEtimedout]
  split
  · rename_i gone
    split
    · rename_i same
      rw [same, gone]
    · rfl
  · dsimp only [dropConn, pushEvent]
    rw [FlowTable.get_remove]
    split
    · rfl
    · rename_i differs
      rw [transitionConn_get_of_ne _ _ _ _ differs, cancelTimers_only, releaseMbufs_only]
      dsimp only [modifyConn]
      rw [FlowTable.get_modify, if_neg differs]

theorem transitionConn_picked (target : TcpState) (nowNs : ℕ) :
    (engine.transitionConn handle target nowNs).picked = engine.picked := by
  dsimp only [transitionConn]
  split
  · rfl
  · split <;> rfl

theorem transitionConn_cfg (target : TcpState) (nowNs : ℕ) :
    (engine.transitionConn handle target nowNs).cfg = engine.cfg := by
  dsimp only [transitionConn]
  split
  · rfl
  · split <;> rfl

theorem forceCloseEtimedout_moved (nowNs : ℕ) :
    Moved allowed engine (engine.forceCloseEtimedout handle nowNs) := by
  refine ⟨?_, ?_, [], ?_, by simp⟩
  · dsimp only [forceCloseEtimedout]
    split
    · rfl
    · dsimp only [dropConn, pushEvent]
      rw [transitionConn_cfg, cancelTimers_only, releaseMbufs_only]
      rfl
  · intro other conn' present
    rw [forceCloseEtimedout_get] at present
    split at present
    · cases present
    · exact ⟨conn', present, Kept.refl conn'⟩
  · rw [List.append_nil]
    dsimp only [forceCloseEtimedout]
    split
    · rfl
    · dsimp only [pushEvent]
      rw [transitionConn_picked, cancelTimers_only, releaseMbufs_only]
      rfl

theorem reportAll_moved (indexes : List ℕ) (nowNs : ℕ) :
    Moved allowed engine
      (indexes.foldl (fun engine index => engine.reportRetrans handle index nowNs) engine) := by
  induction indexes generalizing engine with
  | nil => exact .refl engine
  | cons index rest ih => exact (reportRetrans_moved engine handle index nowNs).trans (ih _)

theorem markLost_moved (lost : List ℕ) : Moved allowed engine (engine.markLost handle lost) := by
  apply modifyConn_moved
  intro conn _
  exact ⟨rfl, entriesKept_markLost _ lost, Or.inl rfl⟩

theorem reportRto_moved (chosen : List ℕ) (eventNs : ℕ) :
    Moved allowed engine (engine.reportRto handle chosen eventNs) := by
  unfold reportRto
  split
  · exact (reportAll_moved engine handle chosen eventNs).trans (pushEvent_moved _ _)
  · exact .refl engine

theorem rearmOrGiveUp_moved (noBackoff : Bool) (env : RtoEnv) :
    Moved allowed engine (engine.rearmOrGiveUp handle noBackoff env) := by
  dsimp only [rearmOrGiveUp]
  split
  · exact forceCloseEtimedout_moved engine handle env.closeNs
  · refine .trans ?_ (armRto_moved _ handle env.timerNs)
    split
    · exact .refl engine
    · apply modifyConn_moved
      intro conn _
      exact ⟨rfl, EntriesKept.refl _, Or.inl rfl⟩

/-- An RTO fire looks up the indexes it marked, or the front one. -/
theorem onRtoFire_moved (firedId : TimerId) (env : RtoEnv) :
    Moved (fun _ _ => True) engine (engine.onRtoFire handle firedId env) := by
  dsimp only [onRtoFire]
  split
  · exact .refl engine
  · rename_i conn present
    split
    · exact .refl engine
    · have cleared : Moved (fun _ _ => True) engine (engine.modifyConn handle
          fun conn => { conn.withoutTimer firedId with rtoTimerId := none }) := by
        apply modifyConn_moved
        intro live _
        exact ⟨rfl, EntriesKept.refl _, Or.inl rfl⟩
      split
      · exact cleared
      · refine .trans ?_ (rearmOrGiveUp_moved _ handle _ env)
        refine .trans ?_ (reportRto_moved _ handle _ env.eventNs)
        refine .trans ?_ (retransmitAll_moved _ handle _ _ fun _ _ => trivial)
        exact cleared.trans (markLost_moved _ handle _)

theorem onTlpFire_moved (firedId : TimerId) (env : RetransmitEnv) (nowNs : ℕ) :
    Moved (fun _ _ => True) engine (engine.onTlpFire handle firedId env nowNs) := by
  dsimp only [onTlpFire]
  split
  · exact .refl engine
  · rename_i conn present
    split
    · exact .refl engine
    · have cleared : Moved (fun _ _ => True) engine (engine.modifyConn handle
          fun conn => { conn.withoutTimer firedId with tlpTimerId := none }) := by
        apply modifyConn_moved
        intro live _
        exact ⟨rfl, EntriesKept.refl _, Or.inl rfl⟩
      split
      · exact cleared
      · generalize recorded_eq : Engine.modifyConn (Engine.retransmit _ handle _ env) handle _ =
          recordedEngine
        have recorded : Moved (fun _ _ => True) engine recordedEngine := by
          rw [← recorded_eq]
          refine (cleared.trans (retransmit_moved _ handle _ env trivial)).trans
            (modifyConn_moved _ handle _ ?_)
          intro live _
          split
          · exact ⟨rfl, EntriesKept.refl _, Or.inl rfl⟩
          · exact Kept.refl live
        split
        · exact recorded.trans ((reportRetrans_moved _ handle _ _).trans (pushEvent_moved _ _))
        · exact recorded

theorem onSynRetransFire_moved (firedId : TimerId) (nowNs : ℕ) :
    Moved allowed engine (engine.onSynRetransFire handle firedId nowNs) := by
  dsimp only [onSynRetransFire]
  split
  · exact .refl engine
  · rename_i conn present
    split
    · exact .refl engine
    · have cleared : Moved allowed engine (engine.modifyConn handle
          fun conn => { conn.withoutTimer firedId with synRetransTimerId := none }) := by
        apply modifyConn_moved
        intro live _
        exact ⟨rfl, EntriesKept.refl _, Or.inl rfl⟩
      split
      · exact cleared
      · have counted := cleared.trans (modifyConn_moved _ handle
          (fun live => { live with synRetransCount := min (conn.synRetransCount + 1) 255 })
          fun live _ => ⟨rfl, EntriesKept.refl _, Or.inl rfl⟩)
        split
        · exact counted.trans (forceCloseEtimedout_moved _ handle nowNs)
        · exact counted.trans (armSynRetrans_moved _ handle nowNs _)

theorem fireTimer_moved (id : TimerId) (node : TimerNode) (env : FireEnv) :
    Moved (fun _ _ => True) engine (engine.fireTimer id node env) := by
  unfold fireTimer
  split
  · exact onRtoFire_moved engine node.ownerHandle id env.rto
  · exact onTlpFire_moved engine node.ownerHandle id env.tlp env.nowNs
  · exact onSynRetransFire_moved engine node.ownerHandle id env.nowNs
  · exact pushEvent_moved _ _

theorem reapTimeWait_moved (nowNs : ℕ) : Moved allowed engine (engine.reapTimeWait nowNs) := by
  dsimp only [reapTimeWait]
  generalize (engine.handles.filter fun handle =>
    (engine.flowTable.get handle).any fun conn => expired conn nowNs).reverse = candidates
  induction candidates generalizing engine with
  | nil => exact .refl engine
  | cons candidate rest ih =>
      refine .trans ?_ (ih _)
      exact ((close_moved engine candidate nowNs).trans (pushEvent_moved _ _)).trans
        (removeConn_moved _ candidate)

end Engine

end DpdkTcp
