import DpdkTcp.Send.Marks
import DpdkTcp.Lifecycle.Live

/-!
# The left edge is sent again until the connection is given up

As long as every RTO fire finds the front entry holding `snd_una` and due, each
fire sends it again, and without progress the budget of transmissions is used
up: the connection is given up with ETIMEDOUT. A fire passes over a front entry
that is reported or taken for lost while another entry is eligible.
-/

namespace DpdkTcp

/-- The entry holds the number. -/
def RetransEntry.holds (entry : RetransEntry) (number : Seq) : Bool :=
  decide ((number - entry.seq).toNat < entry.len)

/-- The front entry holds `snd_una`, and the RTO test chooses it, or no entry at all. -/
def TcpConn.frontDue (conn : TcpConn) (nowNs : ℕ) : Bool :=
  conn.sndRetrans.entries.head?.any fun front =>
    front.holds conn.sndUna && (conn.rtoEligible nowNs front ||
      !conn.sndRetrans.entries.any (conn.rtoEligible nowNs))

/-- A fire then sends it first. -/
theorem TcpConn.rtoResends_of_frontDue {conn : TcpConn} {nowNs : ℕ}
    (due : conn.frontDue nowNs = true) :
    ∃ front rest others, conn.sndRetrans.entries = front :: rest ∧
      front.holds conn.sndUna = true ∧ conn.rtoResends nowNs = 0 :: others := by
  rcases (Option.any_eq_true _ _).mp due with ⟨front, head, both⟩
  rcases Bool.and_eq_true_iff.mp both with ⟨holds, chosen⟩
  rcases List.head?_eq_some_iff.mp head with ⟨rest, entries⟩
  rw [rtoResends, rtoLostIndexes_eq, entries]
  rw [entries] at chosen
  rcases Bool.or_eq_true_iff.mp chosen with eligible | none
  · have first : ∃ others, indexesWhere (conn.rtoEligible nowNs) (front :: rest) = 0 :: others := by
      rw [indexesWhere, List.zipIdx_cons, List.filter_cons, if_pos eligible]
      exact ⟨_, rfl⟩
    rcases first with ⟨others, first⟩
    exact ⟨front, rest, others, rfl, holds, by rw [first, if_neg (List.cons_ne_nil _ _)]⟩
  · have nothing : indexesWhere (conn.rtoEligible nowNs) (front :: rest) = [] := by
      rw [Bool.not_eq_true', List.any_eq_false] at none
      rw [indexesWhere, List.map_eq_nil_iff, List.filter_eq_nil_iff]
      intro item member
      exact none item.1 (List.mem_of_getElem? (List.mem_zipIdx_iff_getElem?.mp member))
    exact ⟨front, rest, [], rfl, holds, by rw [nothing, if_pos rfl]⟩

/-! ### One fire -/

namespace Engine

/-- A call of `retransmit` on the front entry takes none of its early returns. -/
def sendsFront (engine : Engine) (handle : ConnHandle) (env : RetransmitEnv) : Bool :=
  (engine.flowTable.get handle).any fun conn => conn.sndRetrans.entries.head?.any fun front =>
    (engine.drainTxPendingData env.sent).transmits conn front env

/-- The connection left the table, and the application is told that it timed out. -/
structure GivenUp (handle : ConnHandle) (nowNs : ℕ) (after : Engine) : Prop where
  gone : after.flowTable.get handle = none
  told : ∃ before : EventQueue, after.events =
    (before.push (.error handle (-ETIMEDOUT) nowNs)).push (.closed handle (-ETIMEDOUT) nowNs)

variable {engine : Engine} {handle : ConnHandle} {conn : TcpConn} {firedId : TimerId}

theorem frontXmitCount_of_live (present : engine.flowTable.get handle = some conn) :
    engine.frontXmitCount handle =
      (conn.sndRetrans.entries.head?.map RetransEntry.xmitCount).getD 0 := by
  rw [frontXmitCount, present]

/-- Changes of other fields do not count. -/
theorem frontXmitCount_modifyConn (engine : Engine) (handle : ConnHandle)
    {change : TcpConn → TcpConn} (same : ∀ conn, (change conn).sndRetrans = conn.sndRetrans) :
    (engine.modifyConn handle change).frontXmitCount handle = engine.frontXmitCount handle := by
  dsimp only [frontXmitCount, modifyConn]
  rw [FlowTable.get_modify, if_pos rfl]
  cases engine.flowTable.get handle with
  | none => rfl
  | some conn => simp [same]

theorem frontXmitCount_armRto (engine : Engine) (handle : ConnHandle) (nowNs : ℕ) :
    (engine.armRto handle nowNs).frontXmitCount handle = engine.frontXmitCount handle := by
  dsimp only [armRto]
  split
  · rfl
  · split
    · exact frontXmitCount_modifyConn (engine.addTimer handle .rto nowNs _).1 handle fun _ => rfl
    · rfl

/-- The front entry of a kept queue was sent at least as often. -/
theorem frontXmitCount_kept {before after : TcpConn} {first second : Engine}
    (present : first.flowTable.get handle = some before)
    (live : second.flowTable.get handle = some after) {news : List RetransEntry}
    (kept : EntriesKept (before.sndRetrans.entries ++ news) after.sndRetrans.entries) :
    min (first.frontXmitCount handle) 65535 ≤ second.frontXmitCount handle := by
  rw [frontXmitCount_of_live present, frontXmitCount_of_live live]
  cases entries : before.sndRetrans.entries with
  | nil => exact Nat.zero_le _
  | cons front rest =>
      rw [entries, List.cons_append] at kept
      cases later : after.sndRetrans.entries with
      | nil =>
          rw [later] at kept
          cases kept
      | cons front' rest' =>
          rw [later] at kept
          cases kept with
          | cons head _ => exact head.xmitCount

/-- The call looks up the front entry. -/
theorem retransmit_front_picked {front : RetransEntry}
    (present : engine.flowTable.get handle = some conn)
    (head : conn.sndRetrans.entries[0]? = some front) (env : RetransmitEnv) :
    (engine.retransmit handle 0 env).picked = engine.picked ++ [⟨handle, front, conn.sndUna⟩] := by
  rcases retransmit_cases engine handle 0 env with
    ⟨_, _, absent⟩ | ⟨found, entry, there, stands, picked, _⟩
  · rw [absent conn present] at head
    cases head
  · rw [present] at there
    cases there
    rw [head] at stands
    cases stands
    exact picked

/-- A call that succeeds counts the transmission of the front entry. -/
theorem retransmit_front_sent (present : engine.flowTable.get handle = some conn)
    {env : RetransmitEnv} (sends : engine.sendsFront handle env = true) :
    min (engine.frontXmitCount handle + 1) 65535 ≤
      (engine.retransmit handle 0 env).frontXmitCount handle := by
  rw [sendsFront, present, Option.any_some] at sends
  rcases (Option.any_eq_true _ _).mp sends with ⟨front, head, transmitted⟩
  have stands : conn.sndRetrans.entries[0]? = some front := by
    rw [← List.head?_eq_getElem?]
    exact head
  rcases retransmit_cases engine handle 0 env with
    ⟨_, _, absent⟩ | ⟨found, entry, there, here, _, ⟨_, failed⟩ | ⟨_, pushed, change, sent⟩⟩
  · rw [absent conn present] at stands
    cases stands
  · rw [present] at there
    cases there
    rw [stands] at here
    cases here
    rw [transmitted] at failed
    cases failed
  · have live : (engine.retransmit handle 0 env).flowTable.get handle =
        some (conn.resent 0 env.nowNs) := by
      rw [sent, modifyConn, FlowTable.get_modify, if_pos rfl, change.flowTable, present]
      rfl
    rcases List.head?_eq_some_iff.mp head with ⟨rest, entries⟩
    rw [frontXmitCount_of_live present, frontXmitCount_of_live live, TcpConn.resent, entries]
    exact Nat.le_refl _

/-- Once the retransmissions of a fire are done, the connection is given up, or the front entry has
not used up its budget. -/
theorem rearmOrGiveUp_ends (live : engine.stateAt handle ≠ none) (noBackoff : Bool) (env : RtoEnv) :
    (engine.rearmOrGiveUp handle noBackoff env).GivenUp handle env.closeNs ∨
      (engine.rearmOrGiveUp handle noBackoff env).stateAt handle ≠ none ∧
        (engine.rearmOrGiveUp handle noBackoff env).frontXmitCount handle =
          engine.frontXmitCount handle ∧
        engine.frontXmitCount handle ≤ engine.cfg.tcpMaxRetransCount := by
  dsimp only [rearmOrGiveUp]
  split
  · refine Or.inl ⟨?_, ?_⟩
    · rw [forceCloseEtimedout_get, if_pos rfl]
    · dsimp only [forceCloseEtimedout]
      split
      · rename_i none
        rw [stateAt, none] at live
        exact absurd rfl live
      · exact ⟨_, rfl⟩
  · rename_i within
    refine Or.inr ⟨?_, ?_, Nat.not_lt.mp within⟩
    · rw [stateAt_armRto]
      split
      · exact live
      · intro none
        refine live (Eq.trans (Eq.symm ?_) none)
        exact stateAt_modifyConn _ handle handle fun _ => rfl
    · rw [frontXmitCount_armRto]
      split
      · rfl
      · exact frontXmitCount_modifyConn engine handle fun _ => rfl

theorem live_of_stateAt (live : engine.stateAt handle ≠ none) :
    ∃ conn, engine.flowTable.get handle = some conn := by
  rcases Option.ne_none_iff_exists'.mp live with ⟨state, here⟩
  rcases stateAt_eq_some _ handle here with ⟨conn, present, _⟩
  exact ⟨conn, present⟩

theorem stateAt_rtoMarked (lost : List ℕ) :
    (engine.rtoMarked handle firedId lost).stateAt handle = engine.stateAt handle := by
  rw [rtoMarked, markLost, stateAt_modifyConn _ _ _ (by exact fun _ => rfl),
    stateAt_modifyConn _ _ _ (by exact fun _ => rfl)]

/-- A fire that finds the front entry due looks it up, and behind a transmission of it that
succeeds the connection is given up or the entry was sent once more, within the budget. -/
theorem onRtoFire_front (present : engine.flowTable.get handle = some conn)
    (own : conn.rtoTimerId = some firedId) {env : RtoEnv}
    (due : conn.frontDue env.markNs = true) :
    (∃ picks, (engine.onRtoFire handle firedId env).picked = engine.picked ++ picks ∧
        ∃ pick ∈ picks, pick.handle = handle ∧ pick.entry.holds conn.sndUna = true) ∧
      ((engine.rtoMarked handle firedId (conn.rtoLostIndexes env.markNs)).sendsFront handle
          (env.retransmits 0) = true →
        (engine.onRtoFire handle firedId env).GivenUp handle env.closeNs ∨
          (engine.onRtoFire handle firedId env).stateAt handle ≠ none ∧
            min (engine.frontXmitCount handle + 1) 65535 ≤
              (engine.onRtoFire handle firedId env).frontXmitCount handle ∧
            (engine.onRtoFire handle firedId env).frontXmitCount handle ≤
              engine.cfg.tcpMaxRetransCount) := by
  rcases conn.rtoResends_of_frontDue due with ⟨front, rest, others, entries, holds, resends⟩
  have waiting : conn.sndRetrans.isEmpty = false := by
    rw [SendRetrans.isEmpty, entries]
    rfl
  rw [onRtoFire_eq present own waiting env, resends]
  have flagged := rtoMarked_conn present firedId (conn.rtoLostIndexes env.markNs)
  have stateAt := @stateAt_rtoMarked engine handle firedId (conn.rtoLostIndexes env.markNs)
  have picked : (engine.rtoMarked handle firedId (conn.rtoLostIndexes env.markNs)).picked =
      engine.picked := rfl
  have cfg : (engine.rtoMarked handle firedId (conn.rtoLostIndexes env.markNs)).cfg =
      engine.cfg := rfl
  have count := @frontXmitCount_kept handle conn _ engine _ present flagged []
    (by rw [List.append_nil]; exact entriesKept_markLost conn.sndRetrans _)
  generalize engine.rtoMarked handle firedId (conn.rtoLostIndexes env.markNs) = marked at *
  rw [retransmitAll]
  have looked : ∃ entry, (marked.retransmit handle 0 (env.retransmits 0)).picked =
      marked.picked ++ [⟨handle, entry, conn.sndUna⟩] ∧ entry.holds conn.sndUna = true := by
    have stands := (getElem?_markLost conn.sndRetrans (conn.rtoLostIndexes env.markNs) 0).trans
      (congrArg (Option.map _) (show conn.sndRetrans.entries[0]? = some front by rw [entries]; rfl))
    refine ⟨_, retransmit_front_picked flagged stands (env.retransmits 0), ?_⟩
    dsimp only [RetransEntry.markedLost]
    split <;> exact holds
  have sent : marked.sendsFront handle (env.retransmits 0) = true → _ :=
    retransmit_front_sent flagged
  have alive : (marked.retransmit handle 0 (env.retransmits 0)).stateAt handle =
      marked.stateAt handle := stateAt_retransmit marked handle handle 0 _
  have first : Moved (fun _ _ => True) marked (marked.retransmit handle 0 (env.retransmits 0)) :=
    retransmit_moved marked handle 0 _ trivial
  generalize marked.retransmit handle 0 (env.retransmits 0) = resent at *
  have later : Moved (fun _ _ => True) resent ((resent.retransmitAll handle
      (fun turn => env.retransmits (turn + 1)) others).reportRto handle (0 :: others)
        env.eventNs) :=
    (retransmitAll_moved resent handle _ _ fun _ _ => trivial).trans
      (reportRto_moved _ handle _ _)
  have reported : ((resent.retransmitAll handle
      (fun turn => env.retransmits (turn + 1)) others).reportRto handle (0 :: others)
        env.eventNs).stateAt handle = resent.stateAt handle :=
    (stateAt_reportRto _ handle handle _ _).trans (stateAt_retransmitAll resent handle handle _ _)
  generalize (resent.retransmitAll handle (fun turn => env.retransmits (turn + 1)) others).reportRto
    handle (0 :: others) env.eventNs = done at *
  have here : done.stateAt handle ≠ none := by
    rw [reported, alive, stateAt, Engine.stateAt, present]
    exact Option.some_ne_none _
  constructor
  · rcases looked with ⟨entry, one, holding⟩
    rcases later.picks with ⟨more, grown, _⟩
    have quiet : Moved (fun _ _ => False) done
        (done.rearmOrGiveUp handle conn.rtoNoBackoff env) :=
      rearmOrGiveUp_moved done handle conn.rtoNoBackoff env
    refine ⟨⟨handle, entry, conn.sndUna⟩ :: more, ?_, _, List.mem_cons_self, rfl, holding⟩
    rw [quiet.picked_eq, grown, one, picked, List.append_assoc]
    rfl
  · intro sends
    rcases rearmOrGiveUp_ends here conn.rtoNoBackoff env with given | ⟨still, same, within⟩
    · exact Or.inl given
    · refine Or.inr ⟨still, ?_, ?_⟩
      · rcases live_of_stateAt here with ⟨final, live⟩
        rcases later.conns handle final live with ⟨middle, between, kept⟩
        have last := @frontXmitCount_kept handle middle final resent done between live []
          (by rw [List.append_nil]; exact kept.entries)
        have once := sent sends
        rw [same]
        omega
      · rw [same, ← cfg, ← first.cfg, ← later.cfg]
        exact within

end Engine

/-! ### Runs -/

namespace Host

variable {host : Host} {handle : ConnHandle}

/-- The next timer to be handled is the RTO timer of the connection, which has something in flight
and entries to send again. -/
def currentFire (host : Host) (handle : ConnHandle) : Option (TimerId × TcpConn) :=
  match host.pending with
  | [] => none
  | (id, node) :: _ =>
      if node.kind = .rto ∧ node.ownerHandle = handle then
        ((host.engine.flowTable.get handle).filter fun conn =>
          decide (conn.rtoTimerId = some id) && !conn.sndRetrans.isEmpty &&
            decide (conn.sndUna ≠ conn.sndNxt)).map (id, ·)
      else none

/-- If the step is a current RTO fire, it finds the front entry due. -/
def findsDue (host : Host) (handle : ConnHandle) : EngineOp → Bool
  | .fireNext env => (host.currentFire handle).all fun fired => fired.2.frontDue env.rto.markNs
  | _ => true

/-- The step is a current RTO fire, and its transmission of the front entry succeeds. -/
def resendsFront (host : Host) (handle : ConnHandle) : EngineOp → Bool
  | .fireNext env => (host.currentFire handle).any fun fired =>
      (host.engine.rtoMarked handle fired.1 (fired.2.rtoLostIndexes env.rto.markNs)).sendsFront
        handle (env.rto.retransmits 0)
  | _ => false

/-- The connection is there, with its left edge at the number. -/
def standsAt (host : Host) (handle : ConnHandle) (una : Seq) : Bool :=
  (host.engine.flowTable.get handle).any fun conn => decide (conn.sndUna = una)

theorem currentFire_eq {id : TimerId} {conn : TcpConn}
    (current : host.currentFire handle = some (id, conn)) :
    ∃ node rest, host.pending = (id, node) :: rest ∧ node.kind = .rto ∧
      node.ownerHandle = handle ∧ host.engine.flowTable.get handle = some conn ∧
      conn.rtoTimerId = some id := by
  unfold currentFire at current
  split at current
  · cases current
  · rename_i id' node rest pending
    split at current
    · rename_i both
      rcases Option.map_eq_some_iff.mp current with ⟨conn', found, same⟩
      cases same
      rcases Option.filter_eq_some_iff.mp found with ⟨present, own⟩
      simp only [Bool.and_eq_true, decide_eq_true_eq] at own
      exact ⟨node, rest, pending, both.1, both.2, present, own.1.1⟩
    · cases current

theorem standsAt_iff {una : Seq} :
    host.standsAt handle una = true ↔
      ∃ conn, host.engine.flowTable.get handle = some conn ∧ conn.sndUna = una := by
  rw [standsAt, Option.any_eq_true]
  simp only [decide_eq_true_eq]

/-- A step that leaves the left edge where it is keeps the front entry. -/
theorem frontXmitCount_step {op : EngineOp} {una : Seq} (before : host.standsAt handle una = true)
    (after : (host.step op).standsAt handle una = true) :
    min (host.engine.frontXmitCount handle) 65535 ≤
      (host.step op).engine.frontXmitCount handle := by
  rcases standsAt_iff.mp before with ⟨conn, present, rfl⟩
  rcases standsAt_iff.mp after with ⟨conn', live, same⟩
  have step := host.step_conns op live
  rw [present] at step
  have kept : EntriesKept conn.sndRetrans.entries conn'.sndRetrans.entries →
      min (host.engine.frontXmitCount handle) 65535 ≤
        (host.step op).engine.frontXmitCount handle := by
    intro entries
    refine @Engine.frontXmitCount_kept handle conn conn' _ _ present live [] ?_
    rw [List.append_nil]
    exact entries
  cases step with
  | kept same => exact kept same.entries
  | sent running news sent => exact Engine.frontXmitCount_kept present live sent.entries
  | fin running sent state => exact kept sent.entries
  | segment dispatched processed left =>
      subst processed
      cases (dispatch_send _ _ _ _ _).step left with
      | kept send _ => exact kept send.entries
      | opened _ send _ => exact kept send.entries
      | acked _ _ send _ =>
          have ahead := send.ahead
          rw [← send.sndUna, same, seqLt_self] at ahead
          cases ahead
      | closing _ _ send _ => exact kept send.entries

/-- Every entry was sent. -/
def AllSent (host : Host) : Prop :=
  ∀ handle conn, host.engine.flowTable.get handle = some conn →
    ∀ entry ∈ conn.sndRetrans.entries, 1 ≤ entry.xmitCount

theorem sent_of_kept {before after : List RetransEntry}
    (sent : ∀ entry ∈ before, 1 ≤ entry.xmitCount) (kept : EntriesKept before after) :
    ∀ entry ∈ after, 1 ≤ entry.xmitCount := by
  intro entry member
  rcases List.getElem?_of_mem member with ⟨index, found⟩
  rcases kept.getElem? found with ⟨original, there, same⟩
  have once := sent original (List.mem_of_getElem? there)
  have count := same.xmitCount
  omega

theorem AllSent.step (sent : host.AllSent) (op : EngineOp) : (host.step op).AllSent := by
  intro handle conn' live
  have step := host.step_conns op live
  cases present : host.engine.flowTable.get handle with
  | none =>
      rw [present] at step
      cases step with
      | opening opening =>
          have empty : conn'.sndRetrans.entries = [] := List.forall₂_nil_left_iff.mp opening.entries
          rw [empty]
          exact nofun
  | some conn =>
      rw [present] at step
      have old := sent handle conn present
      cases step with
      | kept kept => exact sent_of_kept old kept.entries
      | sent running news sent =>
          refine sent_of_kept (fun entry member => ?_) sent.entries
          rcases List.mem_append.mp member with earlier | new
          · exact old entry earlier
          · exact (sent.fresh entry new).xmitCount.ge
      | fin running sent state => exact sent_of_kept old sent.entries
      | segment dispatched processed kept =>
          subst processed
          cases (dispatch_send _ _ _ _ _).step kept with
          | kept send _ => exact sent_of_kept old send.entries
          | opened _ send _ => exact sent_of_kept old send.entries
          | acked _ _ send _ =>
              refine sent_of_kept (fun entry member => old entry ?_) send.entries
              exact (List.dropWhile_sublist _).subset member
          | closing _ _ send _ => exact sent_of_kept old send.entries

/-- A current fire that finds the front entry due. -/
theorem fire_front {id : TimerId} {conn : TcpConn} {env : FireEnv}
    (current : host.currentFire handle = some (id, conn))
    (due : conn.frontDue env.rto.markNs = true) :
    (∃ picks, (host.step (.fireNext env)).engine.picked = host.engine.picked ++ picks ∧
        ∃ pick ∈ picks, pick.handle = handle ∧ pick.entry.holds conn.sndUna = true) ∧
      (host.resendsFront handle (.fireNext env) = true →
        (host.step (.fireNext env)).engine.GivenUp handle env.rto.closeNs ∨
          (host.step (.fireNext env)).engine.stateAt handle ≠ none ∧
            min (host.engine.frontXmitCount handle + 1) 65535 ≤
              (host.step (.fireNext env)).engine.frontXmitCount handle ∧
            (host.step (.fireNext env)).engine.frontXmitCount handle ≤
              host.engine.cfg.tcpMaxRetransCount) := by
  rcases currentFire_eq current with ⟨node, rest, pending, kind, owner, present, own⟩
  have fired : (host.step (.fireNext env)).engine = host.engine.onRtoFire handle id env.rto := by
    rw [step, pending]
    dsimp only
    rw [Engine.fireTimer, kind, owner]
  rw [fired, resendsFront, current, Option.any_some]
  exact Engine.onRtoFire_front present own due

end Host

/-- A host in a run without progress of a connection, with the number of RTO fires so far that sent
its front entry again. -/
structure Stalled where
  host : Host
  fires : ℕ

namespace Stalled

/-- One step. -/
def step (handle : ConnHandle) (stalled : Stalled) (op : EngineOp) : Stalled :=
  ⟨stalled.host.step op, stalled.fires + (stalled.host.resendsFront handle op).toNat⟩

/-- The step leaves the left edge where it is, and as an RTO fire finds the front entry due. -/
def stays (handle : ConnHandle) (una : Seq) (stalled : Stalled) (op : EngineOp) : Bool :=
  (stalled.host.step op).standsAt handle una && stalled.host.findsDue handle op

/-- The fires so far are within the budget, and the front entry was sent once more than that. -/
def Counted (handle : ConnHandle) (stalled : Stalled) : Prop :=
  stalled.fires = 0 ∨ stalled.fires < stalled.host.engine.cfg.tcpMaxRetransCount ∧
    stalled.fires + 1 ≤ stalled.host.engine.frontXmitCount handle

variable {stalled : Stalled} {handle : ConnHandle} {una : Seq}

/-- A front entry that is due was sent once more than the fires say. -/
theorem Counted.front (counted : stalled.Counted handle) (sent : stalled.host.AllSent)
    {conn : TcpConn} (present : stalled.host.engine.flowTable.get handle = some conn) {nowNs : ℕ}
    (due : conn.frontDue nowNs = true) :
    stalled.fires + 1 ≤ stalled.host.engine.frontXmitCount handle := by
  rcases counted with none | ⟨_, once⟩
  · rcases conn.rtoResends_of_frontDue due with ⟨front, rest, _, entries, _, _⟩
    have first := sent handle conn present front (by rw [entries]; exact List.mem_cons_self)
    rw [none, Engine.frontXmitCount_of_live present, entries]
    exact first
  · exact once

/-- A fire that sends a front entry that is due ends in time, or counts. -/
theorem Counted.fire (counted : stalled.Counted handle) (sent : stalled.host.AllSent)
    (budget : stalled.host.engine.cfg.tcpMaxRetransCount < 65535) {id : TimerId} {conn : TcpConn}
    {env : FireEnv} (current : stalled.host.currentFire handle = some (id, conn))
    (due : conn.frontDue env.rto.markNs = true)
    (resends : stalled.host.resendsFront handle (.fireNext env) = true) :
    (stalled.host.step (.fireNext env)).engine.GivenUp handle env.rto.closeNs ∨
      stalled.fires + 1 < stalled.host.engine.cfg.tcpMaxRetransCount ∧
        stalled.host.engine.frontXmitCount handle <
          (stalled.host.step (.fireNext env)).engine.frontXmitCount handle ∧
        (stalled.host.step (.fireNext env)).engine.stateAt handle ≠ none := by
  rcases Host.currentFire_eq current with ⟨_, _, _, _, _, present, _⟩
  have before := counted.front sent present due
  rcases (Host.fire_front current due).2 resends with given | ⟨still, grown, within⟩
  · exact Or.inl given
  · exact Or.inr ⟨by omega, by omega, still⟩

theorem Counted.step (counted : stalled.Counted handle) (sent : stalled.host.AllSent)
    (there : stalled.host.standsAt handle una = true)
    (budget : stalled.host.engine.cfg.tcpMaxRetransCount < 65535) {op : EngineOp}
    (stays : stalled.stays handle una op = true) : (stalled.step handle op).Counted handle := by
  rcases Bool.and_eq_true_iff.mp stays with ⟨stands, due⟩
  have cfg := stalled.host.step_cfg op
  have kept := Host.frontXmitCount_step there stands
  rw [Counted, Stalled.step, cfg]
  dsimp only
  cases resends : stalled.host.resendsFront handle op with
  | false =>
      rw [Bool.toNat_false, Nat.add_zero]
      refine counted.imp id fun once => ⟨once.1, ?_⟩
      omega
  | true =>
      rw [Bool.toNat_true]
      cases op with
      | fireNext env =>
          rcases (Option.any_eq_true _ _).mp resends with ⟨⟨id, conn⟩, current, _⟩
          rw [Host.findsDue, current, Option.all_some] at due
          rcases Host.currentFire_eq current with ⟨_, _, _, _, _, present, _⟩
          have before := counted.front sent present due
          rcases counted.fire sent budget current due resends with given | ⟨few, grown, _⟩
          · rcases Host.standsAt_iff.mp stands with ⟨conn', live, _⟩
            rw [given.gone] at live
            cases live
          · exact Or.inr ⟨few, by omega⟩
      | _ => cases resends

end Stalled

section Runs

variable {cfg : EngineConfig} {maxConnections eventSoftCap : ℕ} {before : Host}
  {handle : ConnHandle} {una : Seq} {stalled : Stalled}

/-- From any state on, as long as the left edge stays and every RTO fire finds the front entry due,
each fire attempts to send the entry that holds `snd_una`. Those that succeed are fewer than the
budget: the next one gives the connection up with ETIMEDOUT, or counts once more in the front entry
and is still below the budget. -/
theorem left_edge_resent_until_given_up
    (run : Run.Reaches Host.step (fun _ _ => True) (Host.start cfg maxConnections eventSoftCap)
      before)
    (there : before.standsAt handle una = true) (budget : cfg.tcpMaxRetransCount < 65535)
    (still : Run.Reaches (Stalled.step handle)
      (fun stalled op => stalled.stays handle una op = true) ⟨before, 0⟩ stalled) :
    (stalled.fires = 0 ∨ stalled.fires < cfg.tcpMaxRetransCount) ∧
      ∀ env id conn, stalled.host.currentFire handle = some (id, conn) →
        conn.frontDue env.rto.markNs = true →
        (∃ picks, (stalled.host.step (.fireNext env)).engine.picked =
            stalled.host.engine.picked ++ picks ∧
          ∃ pick ∈ picks, pick.handle = handle ∧ pick.entry.holds una = true) ∧
        (stalled.host.resendsFront handle (.fireNext env) = true →
          (stalled.host.step (.fireNext env)).engine.GivenUp handle env.rto.closeNs ∨
            stalled.fires + 1 < cfg.tcpMaxRetransCount ∧
              stalled.host.engine.frontXmitCount handle <
                (stalled.host.step (.fireNext env)).engine.frontXmitCount handle ∧
              (stalled.host.step (.fireNext env)).engine.stateAt handle ≠ none) := by
  have began : before.AllSent ∧ before.engine.cfg = cfg := by
    apply run.invariant
    · refine ⟨fun other conn live => ?_, rfl⟩
      rw [Host.get_start] at live
      cases live
    · rintro host op ⟨sent, same⟩ _
      exact ⟨sent.step op, (host.step_cfg op).trans same⟩
  have now : stalled.host.AllSent ∧ stalled.host.engine.cfg = cfg ∧
      stalled.host.standsAt handle una = true ∧ stalled.Counted handle := by
    apply still.invariant
    · exact ⟨began.1, began.2, there, Or.inl rfl⟩
    · rintro earlier op ⟨sent, same, stands, counted⟩ stays
      exact ⟨sent.step op, (earlier.host.step_cfg op).trans same,
        (Bool.and_eq_true_iff.mp stays).1,
        counted.step sent stands (by rw [same]; exact budget) stays⟩
  rcases now with ⟨sent, same, stands, counted⟩
  refine ⟨?_, fun env id conn current due => ⟨?_, fun resends => ?_⟩⟩
  · rw [← same]
    exact counted.imp id And.left
  · rcases Host.currentFire_eq current with ⟨_, _, _, _, _, present, _⟩
    rcases Host.standsAt_iff.mp stands with ⟨conn', live, left⟩
    rw [present] at live
    cases live
    rw [← left]
    exact (Host.fire_front current due).1
  · rw [← same]
    exact counted.fire sent (by rw [same]; exact budget) current due resends

/-- Two segments are in flight, and their timer fires. -/
def twoOverdue : List EngineOp :=
  handshake ++ [sendAt 2000 [1, 2, 3] 1, sendAt 2000 [4, 5] 2, .advance 200000]

/-- The next fire finds a header buffer for each of them. -/
def nextFire : FireEnv :=
  ⟨⟨500000, fun turn => ⟨1, some (5 + turn), true, true, 0, 500000, 500000, 500000⟩, 500000,
      500000, 500000⟩,
    ⟨1, none, true, true, 0, 500000, 500000, 500000⟩, 500000⟩

/-- Both are sent again, and the timer fires once more. -/
def onceMore : Stalled :=
  [fireAt 200000 (fun turn => some (3 + turn)), .advance 500000].foldl (Stalled.step 1)
    ⟨Host.after twoOverdue, 0⟩

/-- The second fire sends the front entry for the third time. -/
theorem left_edge_resent_until_given_up_onceMore :
    onceMore.fires = 1 ∧
      (∃ picks, (onceMore.host.step (.fireNext nextFire)).engine.picked =
          onceMore.host.engine.picked ++ picks ∧
        ∃ pick ∈ picks, pick.handle = 1 ∧ pick.entry.holds 101#32 = true) ∧
      onceMore.host.engine.frontXmitCount 1 <
        (onceMore.host.step (.fireNext nextFire)).engine.frontXmitCount 1 := by
  have known : (onceMore.host.currentFire 1).any
      (fun fired => fired.2.frontDue nextFire.rto.markNs) = true := by decide +kernel
  rcases (Option.any_eq_true _ _).mp known with ⟨⟨id, conn⟩, current, due⟩
  have still : Run.Reaches (Stalled.step 1) (fun stalled op => stalled.stays 1 101#32 op = true)
      ⟨Host.after twoOverdue, 0⟩ onceMore :=
    Run.Reaches.of_admits (by decide +kernel :
      Run.admits (Stalled.step 1) (Stalled.stays 1 101#32) ⟨Host.after twoOverdue, 0⟩
        [fireAt 200000 (fun turn => some (3 + turn)), .advance 500000] = true)
  have facts := (left_edge_resent_until_given_up (Host.after_reached twoOverdue)
    (by decide +kernel) (by decide) still).2 nextFire id conn current due
  refine ⟨by decide +kernel, facts.1, ?_⟩
  rcases facts.2 (by decide +kernel) with given | ⟨_, grown, _⟩
  · have live : ((onceMore.host.step (.fireNext nextFire)).engine.flowTable.get 1).isSome =
        true := by decide +kernel
    rw [given.gone] at live
    cases live
  · exact grown

/-- The first segment found no header buffer and the second did, and the timer fires once more. -/
def sentSecond : List EngineOp :=
  twoOverdue ++ [fireAt 200000 (fun turn => if turn = 0 then none else some 3), .advance 500000]

/-- The fire passes over the front entry, which is still taken for lost. -/
theorem left_edge_passed_over :
    ¬ ∀ host, Run.Reaches Host.step (fun _ _ => True) (Host.start quickCfg 1 64) host →
      ∀ handle id conn env, host.currentFire handle = some (id, conn) →
        ∃ picks, (host.step (.fireNext env)).engine.picked = host.engine.picked ++ picks ∧
          ∃ pick ∈ picks, pick.handle = handle ∧ pick.entry.holds conn.sndUna = true := by
  intro attempted
  have known : ((Host.after sentSecond).currentFire 1).any
      (fun fired => decide (fired.2.sndUna = 101#32)) = true := by decide +kernel
  have passed : (((Host.after sentSecond).step (.fireNext nextFire)).engine.picked.drop
      (Host.after sentSecond).engine.picked.length).any
        (fun pick => pick.entry.holds 101#32) = false := by decide +kernel
  rcases (Option.any_eq_true _ _).mp known with ⟨⟨id, conn⟩, current, edge⟩
  rcases attempted _ (Host.after_reached sentSecond) 1 id conn nextFire current with
    ⟨picks, grown, pick, member, _, holds⟩
  rw [grown, List.drop_left] at passed
  rw [show conn.sndUna = 101#32 from of_decide_eq_true edge] at holds
  exact List.any_eq_false.mp passed pick member holds

end Runs

end DpdkTcp
