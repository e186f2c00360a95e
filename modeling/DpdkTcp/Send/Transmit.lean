import DpdkTcp.Model.Engine

/-!
# What a transmission changes

The ring, the driver and the buffers change with every transmission; the flow
table and the timer wheel do not, except that a successful `retransmit`
updates the entry it sent.
-/

namespace DpdkTcp

namespace Engine

/-- Only the buffers, the frames, the events with what they pin and the record of calls
differ. -/
structure TxChange (before after : Engine) : Prop where
  only : after =
    { before with
      events := after.events
      txPendingData := after.txPendingData
      driverFrames := after.driverFrames
      mbufs := after.mbufs
      rxRefs := after.rxRefs
      picked := after.picked
      record :=
        { before.record with
          assigned := after.record.assigned
          offered := after.record.offered
          taken := after.record.taken } }

namespace TxChange

variable {first second third : Engine}

theorem refl (engine : Engine) : TxChange engine engine :=
  ⟨rfl⟩

theorem trans (left : TxChange first second) (right : TxChange second third) :
    TxChange first third := by
  refine ⟨?_⟩
  rw [right.only, left.only]

theorem cfg (change : TxChange first second) : second.cfg = first.cfg := by
  rw [change.only]

theorem flowTable (change : TxChange first second) : second.flowTable = first.flowTable := by
  rw [change.only]

theorem timerWheel (change : TxChange first second) : second.timerWheel = first.timerWheel := by
  rw [change.only]

end TxChange

variable (engine : Engine)

theorem pushEvent_change (event : InternalEvent) : TxChange engine (engine.pushEvent event) :=
  ⟨rfl⟩

/-- Every write to a buffer goes through `setMbuf`. -/
theorem mbufs_setMbuf (addr : ℕ) (mbuf : TxMbuf) (other : ℕ) :
    (engine.setMbuf addr mbuf).mbufs other = if other = addr then mbuf else engine.mbufs other :=
  rfl

/-- Releasing buffers changes nothing but the buffers. -/
theorem releaseMbufs_only (addrs : List ℕ) :
    engine.releaseMbufs addrs = { engine with mbufs := (engine.releaseMbufs addrs).mbufs } := by
  unfold releaseMbufs
  induction addrs generalizing engine with
  | nil => rfl
  | cons addr rest ih =>
      rw [List.foldl_cons, ih (engine.releaseMbuf addr)]
      rfl

theorem releaseMbufs_change (addrs : List ℕ) : TxChange engine (engine.releaseMbufs addrs) := by
  rw [releaseMbufs_only]
  exact ⟨rfl⟩

theorem drainTxPendingData_change (sent : ℕ) :
    TxChange engine (engine.drainTxPendingData sent) :=
  TxChange.trans ⟨rfl⟩ (releaseMbufs_change _ _)

@[simp]
theorem drainTxPendingData_txPendingData (sent : ℕ) :
    (engine.drainTxPendingData sent).txPendingData = [] := by
  unfold drainTxPendingData
  rw [releaseMbufs_only]

@[simp]
theorem drainTxPendingData_picked (sent : ℕ) :
    (engine.drainTxPendingData sent).picked = engine.picked := by
  unfold drainTxPendingData
  rw [releaseMbufs_only]

theorem pushTxPendingData_change (frame : TxFrame) (sent : ℕ) :
    TxChange engine (engine.pushTxPendingData frame sent) := by
  unfold pushTxPendingData
  split
  · exact ⟨rfl⟩
  · exact (drainTxPendingData_change engine sent).trans ⟨rfl⟩

@[simp]
theorem pushTxPendingData_picked (frame : TxFrame) (sent : ℕ) :
    (engine.pushTxPendingData frame sent).picked = engine.picked := by
  unfold pushTxPendingData
  split
  · rfl
  · exact drainTxPendingData_picked engine sent

theorem stripHeader_change (addr len : ℕ) : TxChange engine (engine.stripHeader addr len) := by
  unfold stripHeader adjMbuf
  split
  · split <;> exact ⟨rfl⟩
  · exact ⟨rfl⟩

@[simp]
theorem stripHeader_picked (addr len : ℕ) :
    (engine.stripHeader addr len).picked = engine.picked := by
  unfold stripHeader adjMbuf
  split
  · split <;> rfl
  · rfl

theorem mbufs_stripHeader_of_ne {addr other : ℕ} (len : ℕ) (differs : other ≠ addr) :
    (engine.stripHeader addr len).mbufs other = engine.mbufs other := by
  unfold stripHeader adjMbuf writeMbuf
  split
  · split
    · rfl
    · rw [mbufs_setMbuf, if_neg differs]
  · rfl

/-! ### One retransmission -/

/-- None of the early returns is taken. -/
def transmits (conn : TcpConn) (entry : RetransEntry) (env : RetransmitEnv) : Bool :=
  entry.mbuf != 0 && env.hdrMbuf.any fun hdrMbuf =>
    ((engine.allocMbuf hdrMbuf).retransHeader conn entry env.optionsNs).isSome && env.appended &&
      env.chained

/-- The engine before the ring push of a successful transmission, and before the
release of the references of one whose chaining failed. -/
def prepared (conn : TcpConn) (entry : RetransEntry) (optionsNs hdrMbuf : ℕ)
    (header : List UInt8) : Engine :=
  let allocated := engine.allocMbuf hdrMbuf
  ((allocated.writeRetransHeader conn entry optionsNs hdrMbuf header).stripHeader entry.mbuf
    (allocated.liveHdrsLen entry)).holdMbuf entry.mbuf

theorem prepared_change (conn : TcpConn) (entry : RetransEntry) (optionsNs hdrMbuf : ℕ)
    (header : List UInt8) :
    TxChange engine (engine.prepared conn entry optionsNs hdrMbuf header) :=
  TxChange.trans (TxChange.trans ⟨rfl⟩ (stripHeader_change _ _ _)) ⟨rfl⟩

theorem prepared_picked (conn : TcpConn) (entry : RetransEntry) (optionsNs hdrMbuf : ℕ)
    (header : List UInt8) :
    (engine.prepared conn entry optionsNs hdrMbuf header).picked = engine.picked :=
  stripHeader_picked _ _ _

/-- The ways a transmission of an entry fails: no header buffer, no header or no
room for it, no chain. -/
inductive FailedTo (handle : ConnHandle) (conn : TcpConn) (entry : RetransEntry)
    (env : RetransmitEnv) : Engine → Prop where
  | alloc (none : env.hdrMbuf = none) : FailedTo handle conn entry env
      (engine.retransmitError handle env.errorNs)
  | build (hdrMbuf : ℕ) (some : env.hdrMbuf = some hdrMbuf) : FailedTo handle conn entry env
      (((engine.allocMbuf hdrMbuf).releaseMbuf hdrMbuf).retransmitError handle env.errorNs)
  | chain (hdrMbuf : ℕ) (some : env.hdrMbuf = some hdrMbuf) (header : List UInt8) :
      FailedTo handle conn entry env
        ((((engine.prepared conn entry env.optionsNs hdrMbuf header).releaseMbuf
          hdrMbuf).releaseMbuf entry.mbuf).retransmitError handle env.errorNs)

variable {engine} {conn : TcpConn} {entry : RetransEntry} {env : RetransmitEnv}

theorem FailedTo.change {handle : ConnHandle} {after : Engine}
    (failed : engine.FailedTo handle conn entry env after) :
    TxChange engine after ∧ after.picked = engine.picked := by
  cases failed with
  | alloc none => exact ⟨⟨rfl⟩, rfl⟩
  | build hdrMbuf some => exact ⟨⟨rfl⟩, rfl⟩
  | chain hdrMbuf some header =>
      exact ⟨(prepared_change engine conn entry env.optionsNs hdrMbuf header).trans ⟨rfl⟩,
        prepared_picked engine conn entry env.optionsNs hdrMbuf header⟩

theorem retransmitEntry_of_not_transmits (handle : ConnHandle) (index : ℕ)
    (mbuf : entry.mbuf ≠ 0) (failed : engine.transmits conn entry env = false) :
    engine.FailedTo handle conn entry env
      (engine.retransmitEntry handle index conn entry env) := by
  dsimp only [retransmitEntry]
  split
  · rename_i none
    exact .alloc none
  · rename_i hdrMbuf allocated
    split
    · exact .build hdrMbuf allocated
    · rename_i header built
      split
      · exact .build hdrMbuf allocated
      · split
        · exact .chain hdrMbuf allocated header
        · rename_i appended chained
          simp only [Bool.not_eq_true', Bool.not_eq_false] at appended chained
          simp [transmits, mbuf, allocated, built, appended, chained] at failed

/-- A successful transmission updates the entry. -/
theorem retransmitEntry_of_transmits (handle : ConnHandle) (index : ℕ)
    (transmitted : engine.transmits conn entry env = true) :
    ∃ hdrMbuf header, env.hdrMbuf = some hdrMbuf ∧
      (engine.allocMbuf hdrMbuf).retransHeader conn entry env.optionsNs = some header ∧
      engine.retransmitEntry handle index conn entry env =
        ((engine.prepared conn entry env.optionsNs hdrMbuf header).pushTxPendingData
          ⟨[hdrMbuf, entry.mbuf], 0, none⟩ env.sentFull).modifyConn handle
            fun conn => conn.resent index env.nowNs := by
  unfold transmits at transmitted
  cases allocated : env.hdrMbuf with
  | none => simp [allocated] at transmitted
  | some hdrMbuf =>
      simp only [allocated, Option.any_some, Bool.and_eq_true] at transmitted
      rcases transmitted with ⟨_, ⟨built, appended⟩, chained⟩
      rcases Option.isSome_iff_exists.mp built with ⟨header, header_eq⟩
      refine ⟨hdrMbuf, header, rfl, header_eq, ?_⟩
      simp only [retransmitEntry, allocated, header_eq, appended, chained, Bool.not_true,
        Bool.false_eq_true, if_false]
      rfl

/-- How a call of `retransmit` ends: there is no such entry, the entry is looked
up and the attempt fails, or it is sent and updated. -/
theorem retransmit_cases (engine : Engine) (handle : ConnHandle) (index : ℕ)
    (env : RetransmitEnv) :
    (TxChange engine (engine.retransmit handle index env) ∧
        (engine.retransmit handle index env).picked = engine.picked ∧
        ∀ conn, engine.flowTable.get handle = some conn →
          conn.sndRetrans.entries[index]? = none) ∨
      ∃ conn entry, engine.flowTable.get handle = some conn ∧
        conn.sndRetrans.entries[index]? = some entry ∧
        (engine.retransmit handle index env).picked =
          engine.picked ++ [⟨handle, entry, conn.sndUna⟩] ∧
        ((TxChange engine (engine.retransmit handle index env) ∧
            (engine.drainTxPendingData env.sent).transmits conn entry env = false) ∨
          ((engine.drainTxPendingData env.sent).transmits conn entry env = true ∧
            ∃ pushed, TxChange engine pushed ∧
              engine.retransmit handle index env =
                pushed.modifyConn handle fun conn => conn.resent index env.nowNs)) := by
  have drain := drainTxPendingData_change engine env.sent
  have record := drainTxPendingData_picked engine env.sent
  dsimp only [retransmit]
  rw [drain.flowTable]
  generalize engine.drainTxPendingData env.sent = drained at drain record ⊢
  cases present : engine.flowTable.get handle with
  | none => exact Or.inl ⟨drain, record, by simp⟩
  | some conn =>
      dsimp only
      cases found : conn.sndRetrans.entries[index]? with
      | none =>
          refine Or.inl ⟨drain, record, ?_⟩
          rintro _ ⟨⟩
          exact found
      | some entry =>
          have look : TxChange engine (drained.recordPick ⟨handle, entry, conn.sndUna⟩) :=
            drain.trans ⟨rfl⟩
          have looked : (drained.recordPick ⟨handle, entry, conn.sndUna⟩).picked =
              engine.picked ++ [⟨handle, entry, conn.sndUna⟩] := by
            rw [← record]
            rfl
          have same : (drained.recordPick ⟨handle, entry, conn.sndUna⟩).transmits conn entry env =
              drained.transmits conn entry env := rfl
          refine Or.inr ⟨conn, entry, rfl, found, ?_⟩
          dsimp only
          rw [← same]
          generalize drained.recordPick ⟨handle, entry, conn.sndUna⟩ = picked at look looked ⊢
          by_cases null : entry.mbuf = 0
          · rw [if_pos null]
            exact ⟨looked, Or.inl ⟨look, by simp [transmits, null]⟩⟩
          · rw [if_neg null]
            cases transmitted : picked.transmits conn entry env with
            | false =>
                rcases (retransmitEntry_of_not_transmits handle index null transmitted).change with
                  ⟨failed, kept⟩
                exact ⟨kept.trans looked, Or.inl ⟨look.trans failed, rfl⟩⟩
            | true =>
                rcases retransmitEntry_of_transmits handle index transmitted with
                  ⟨hdrMbuf, header, _, _, sent⟩
                rw [sent]
                refine ⟨?_, Or.inr ⟨rfl, _, look.trans ((prepared_change _ _ _ _ _ _).trans
                  (pushTxPendingData_change _ _ _)), rfl⟩⟩
                exact (pushTxPendingData_picked _ _ _).trans
                  ((prepared_picked _ _ _ _ _ _).trans looked)

end Engine

end DpdkTcp
