import DpdkTcp.Lifecycle.Deeds

/-!
# What the engine does with timers

Seen from the timers, a deed arms one for a connection that is there, cancels
one and strikes it off its list, strikes off a fired one, or cancels all timers
of a connection that goes. All other deeds keep the list of timers of a
connection and at most forget a named one.
-/

namespace DpdkTcp

/-- The list of timers is untouched, and names are at most dropped. -/
structure SameTimers (before after : TcpConn) : Prop where
  timerIds : after.timerIds = before.timerIds
  named : ∀ kind, after.timerOf kind = before.timerOf kind ∨ after.timerOf kind = none

theorem SameTimers.refl (conn : TcpConn) : SameTimers conn conn :=
  ⟨rfl, fun _ => .inl rfl⟩

theorem SameOwner.sameTimers {before after : TcpConn} (same : SameOwner before after) :
    SameTimers before after := by
  refine ⟨same.timerIds, fun kind => .inl ?_⟩
  cases kind with
  | rto => exact same.rtoTimerId
  | tlp => exact same.tlpTimerId
  | synRetrans => exact same.synRetransTimerId
  | apiPublic => rfl

/-- A dispatch arms nothing: it forgets the name of the SYN timer at most. -/
theorem dispatch_sameTimers (conn : TcpConn) (seg : ParsedSegment) (clock : Readings)
    (sendBuf : ℕ) (mbufCtx : Option MbufInsertCtx) :
    SameTimers conn (dispatch conn seg clock sendBuf mbufCtx).conn := by
  by_cases opening : conn.state = .synSent
  · unfold dispatch
    rw [opening]
    dsimp only [handleSynSent]
    split
    · split <;> exact .refl conn
    · split
      · exact .refl conn
      · split
        · exact .refl conn
        · split
          · exact .refl conn
          · split
            · exact .refl conn
            · dsimp only
              rw [maybeSeed_only]
              refine ⟨rfl, fun kind => ?_⟩
              cases kind with
              | synRetrans => exact .inr rfl
              | rto | tlp | apiPublic => exact .inl rfl
  · exact (dispatch_sameOwner opening seg clock sendBuf mbufCtx).sameTimers

/-- No edit arms a timer, and only a fired timer is struck off a list. -/
theorem Edit.sameTimers {edit : Edit} {conn : TcpConn} (alone : edit.Alone conn)
    (beside : ∀ kind id, edit ≠ .strike kind id) : SameTimers conn (edit.apply conn) := by
  cases edit with
  | dispatch seg clock sendBuf mbufCtx => exact dispatch_sameTimers conn seg clock sendBuf mbufCtx
  | strike kind id => exact absurd rfl (beside kind id)
  | forget | arm | insert => exact alone.elim
  | _ => exact ⟨rfl, fun _ => .inl rfl⟩

theorem TcpConn.timerOf_struck (conn : TcpConn) (kind : TimerKind) (id : TimerId)
    (other : TimerKind) : (conn.struck kind id).timerOf other = conn.timerOf other ∨
      (conn.struck kind id).timerOf other = none := by
  cases kind <;> cases other <;> first | exact .inl rfl | exact .inr rfl

theorem TcpConn.timerIds_struck (conn : TcpConn) (kind : TimerKind) (id : TimerId) :
    (conn.struck kind id).timerIds = conn.timerIds.filter fun known => known ≠ id := by
  cases kind <;> rfl

namespace Engine

/-- One step with timers, of the connection of a handle. -/
inductive TimerStep (handle : ConnHandle) (before after : Engine) : Prop where
  | same (conns : ∀ other, after.flowTable.get other = before.flowTable.get other)
      (wheel : after.timerWheel = before.timerWheel)
      (record : after.record.armings = before.record.armings)
  | write {conn conn' : TcpConn} (present : before.flowTable.get handle = some conn)
      (written : Writes handle before after (some conn')) (timers : SameTimers conn conn')
      (wheel : after.timerWheel = before.timerWheel)
      (record : after.record.armings = before.record.armings)
  | arm {conn conn' : TcpConn} (nowNs : ℕ) (node : TimerNode)
      (present : before.flowTable.get handle = some conn)
      (written : Writes handle before after (some conn')) (owner : node.ownerHandle = handle)
      (timerIds : conn'.timerIds = conn.timerIds ++ [(before.timerWheel.add nowNs node).2])
      (name : conn'.timerOf node.kind = some (before.timerWheel.add nowNs node).2)
      (others : ∀ kind, kind ≠ node.kind → conn'.timerOf kind = conn.timerOf kind)
      (wheel : after.timerWheel = (before.timerWheel.add nowNs node).1)
      (record : after.record.armings =
        (before.record.armed ++ [⟨(before.timerWheel.add nowNs node).2, handle,
          before.record.incarnation handle, node.kind⟩], before.record.opened))
  | stop {conn conn' : TcpConn} (id : TimerId)
      (present : before.flowTable.get handle = some conn)
      (written : Writes handle before after (some conn'))
      (timerIds : conn'.timerIds = conn.timerIds.filter fun known => known ≠ id)
      (named : ∀ kind, conn'.timerOf kind = conn.timerOf kind ∨ conn'.timerOf kind = none)
      (wheel : after.timerWheel = before.timerWheel.cancel id)
      (record : after.record.armings = before.record.armings)
  | forget {conn conn' : TcpConn} (id : TimerId)
      (dead : FewReuses before.record.armed → before.timerWheel.isLive id = false)
      (present : before.flowTable.get handle = some conn)
      (written : Writes handle before after (some conn'))
      (timerIds : conn'.timerIds = conn.timerIds.filter fun known => known ≠ id)
      (named : ∀ kind, conn'.timerOf kind = conn.timerOf kind ∨ conn'.timerOf kind = none)
      (wheel : after.timerWheel = before.timerWheel)
      (record : after.record.armings = before.record.armings)
  | remove {conn : TcpConn} (present : before.flowTable.get handle = some conn)
      (written : Writes handle before after none)
      (wheel : after.timerWheel = (before.cancelTimers conn.allTimerIds).timerWheel)
      (record : after.record.armings = before.record.armings)
  | insert {conn : TcpConn} (vacant : before.flowTable.get handle = none)
      (written : Writes handle before after (some conn)) (fresh : conn.timerIds = [])
      (unnamed : ∀ kind, conn.timerOf kind = none) (wheel : after.timerWheel = before.timerWheel)
      (record : after.record.armings = (before.record.armed, before.record.opened ++ [handle]))

/-- A deed, as far as the timers go, where only dead timers are struck off. -/
theorem Deed.timerStep {allowed : Edit → Prop} {handle : ConnHandle} {before after : Engine}
    (deed : Deed allowed handle before after)
    (dead : ∀ kind id, allowed (.strike kind id) → FewReuses before.record.armed →
      before.timerWheel.isLive id = false) : TimerStep handle before after := by
  cases deed with
  | aside conns wheel record => exact .same conns wheel record
  | edit edit isAllowed present alone written wheel record =>
      by_cases striking : ∃ kind id, edit = .strike kind id
      · rcases striking with ⟨kind, id, rfl⟩
        exact .forget id (dead kind id isAllowed) present written
          (TcpConn.timerIds_struck _ kind id) (TcpConn.timerOf_struck _ kind id) wheel record
      · refine .write present written (Edit.sameTimers alone ?_) wheel record
        exact fun kind id same => striking ⟨kind, id, same⟩
  | arm kind nowNs delayUs _ own gate present written wheel record =>
      refine .arm nowNs ⟨nowNs + delayUs * 1000, handle, kind, 0, 0#32, false⟩ present written rfl
        ?_ ?_ ?_ wheel record
      · cases kind <;> rfl
      · cases kind with
        | apiPublic => exact absurd rfl own
        | _ => rfl
      · intro other differs
        cases kind <;> cases other <;> first | rfl | exact absurd rfl differs
  | stop kind id present named written wheel record =>
      exact .stop id present written (TcpConn.timerIds_struck _ kind id)
        (TcpConn.timerOf_struck _ kind id) wheel record
  | forget id _ present written wheel record =>
      exact .stop id present written rfl (fun _ => .inl rfl) wheel record
  | remove present written wheel record => exact .remove present written wheel record
  | insert tuple iss ourMss opts nowNs _ vacant written wheel record =>
      refine .insert vacant written rfl (fun kind => ?_) wheel record
      cases kind <;> rfl

end Engine

end DpdkTcp
