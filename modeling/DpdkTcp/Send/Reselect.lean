import DpdkTcp.Send.Failure
import DpdkTcp.Send.Segment

/-!
# Entries that are sent again after a failure

An RTO fire sends the entries it takes for lost again, or the front entry when
it finds none, and a RACK pass sends those it takes for lost. Once enough time
has passed, what they choose is decided by the flags `sacked` and `lost` alone.
An entry whose transmission failed after the flag `lost` was raised is chosen
again only as the front entry of a queue in which no entry is eligible.
-/

namespace DpdkTcp

/-! ### What is chosen -/

/-- A detector can choose the entry: it is not reported, not taken for lost and not
acknowledged. -/
def RetransEntry.eligible (sndUna : Seq) (entry : RetransEntry) : Bool :=
  !(entry.sacked || entry.lost) && !seqLe entry.endSeq sndUna

namespace TcpConn

/-- The indexes of the entries that can be chosen. -/
def eligibleIndexes (conn : TcpConn) : List ℕ :=
  indexesWhere (RetransEntry.eligible conn.sndUna) conn.sndRetrans.entries

/-- The indexes that an RTO fire hands to `retransmit`. -/
def rtoResends (conn : TcpConn) (nowNs : ℕ) : List ℕ :=
  if conn.rtoLostIndexes nowNs = [] then [0] else conn.rtoLostIndexes nowNs

/-- The indexes that a RACK pass hands to `retransmit`. -/
def rackResends (conn : TcpConn) (nowNs : ℕ) : List ℕ :=
  (rackPass conn nowNs).2

variable {conn : TcpConn}

theorem mem_eligibleIndexes {index : ℕ} :
    index ∈ conn.eligibleIndexes ↔ ∃ place entry, index = asU16 place ∧
      conn.sndRetrans.entries[place]? = some entry ∧ entry.eligible conn.sndUna = true :=
  mem_indexesWhere

theorem rackResends_eligible {nowNs index : ℕ} (chosen : index ∈ conn.rackResends nowNs) :
    index ∈ conn.eligibleIndexes := by
  dsimp only [rackResends, rackPass] at chosen
  cases empty : conn.sndRetrans.isEmpty with
  | true =>
      rw [empty, if_pos rfl] at chosen
      cases chosen
  | false =>
      rw [empty, if_neg Bool.false_ne_true] at chosen
      rcases mem_indexesWhere.mp chosen with ⟨place, entry, same, found, lost⟩
      exact mem_eligibleIndexes.mpr ⟨place, entry, same, found, (Bool.and_eq_true_iff.mp lost).1⟩

end TcpConn

/-! ### From the detection to the call -/

/-- An entry before a detector ran and at a later call of `retransmit`: its flag `lost` may
differ, unless it stands too far back for an index of sixteen bits. -/
structure RetransEntry.Flagged (index : ℕ) (before called : RetransEntry) : Prop where
  seq : called.seq = before.seq
  len : called.len = before.len
  mbuf : called.mbuf = before.mbuf
  sacked : called.sacked = before.sacked
  far : 65536 ≤ index → called.lost = before.lost

/-- A connection before a detector ran and at a call of `retransmit`: some entries are taken for
lost by now, and some of these are sent again already. -/
structure TcpConn.Underway (before called : TcpConn) : Prop where
  sndUna : called.sndUna = before.sndUna
  flagged : ∀ index : ℕ, Option.Rel (RetransEntry.Flagged index)
    before.sndRetrans.entries[index]? called.sndRetrans.entries[index]?
  empty : before.eligibleIndexes = [] → called.eligibleIndexes = []

theorem RetransEntry.Flagged.refl (index : ℕ) (entry : RetransEntry) :
    entry.Flagged index entry :=
  ⟨rfl, rfl, rfl, rfl, fun _ => rfl⟩

namespace TcpConn.Underway

variable {before called : TcpConn} {index : ℕ} {entry now : RetransEntry}

theorem refl (conn : TcpConn) : conn.Underway conn := by
  refine ⟨rfl, fun index => ?_, id⟩
  cases conn.sndRetrans.entries[index]? with
  | none => exact .none
  | some entry => exact .some (.refl index entry)

theorem flagged_at (underway : before.Underway called)
    (there : called.sndRetrans.entries[index]? = some now) :
    ∃ entry, before.sndRetrans.entries[index]? = some entry ∧ entry.Flagged index now := by
  have related := underway.flagged index
  rw [there] at related
  cases found : before.sndRetrans.entries[index]? with
  | none =>
      rw [found] at related
      cases related
  | some entry =>
      rw [found] at related
      cases related with
      | some flagged => exact ⟨entry, rfl, flagged⟩

/-- An entry too far back for an index is as eligible as before. -/
theorem far (underway : before.Underway called) (beyond : 65536 ≤ index)
    (found : before.sndRetrans.entries[index]? = some entry)
    (eligible : entry.eligible before.sndUna = true) :
    ∃ now, called.sndRetrans.entries[index]? = some now ∧ now.eligible called.sndUna = true := by
  have related := underway.flagged index
  rw [found] at related
  cases there : called.sndRetrans.entries[index]? with
  | none =>
      rw [there] at related
      cases related
  | some now =>
      rw [there] at related
      cases related with
      | some flagged =>
          refine ⟨now, rfl, ?_⟩
          rw [← eligible, RetransEntry.eligible, RetransEntry.eligible, RetransEntry.endSeq,
            RetransEntry.endSeq, flagged.sacked, flagged.far beyond, flagged.seq, flagged.len,
            underway.sndUna]

/-- Entries that could be chosen are taken for lost. -/
theorem marked {marked : List ℕ} (small : ∀ index ∈ marked, index < 65536)
    (nonempty : before.eligibleIndexes ≠ []) (sndUna : called.sndUna = before.sndUna)
    (raised : called.sndRetrans = before.sndRetrans.markLost marked) :
    before.Underway called := by
  refine ⟨sndUna, fun index => ?_, fun empty => absurd empty nonempty⟩
  rw [raised, getElem?_markLost]
  cases before.sndRetrans.entries[index]? with
  | none => exact .none
  | some entry =>
      refine .some ?_
      by_cases hit : index ∈ marked
      · have inside := small index hit
        rw [decide_eq_true hit]
        exact ⟨rfl, rfl, rfl, rfl, fun beyond => absurd beyond (Nat.not_le.mpr inside)⟩
      · rw [decide_eq_false hit]
        exact .refl index entry

/-- One of them is sent again. -/
theorem resent (underway : before.Underway called) {place : ℕ} (small : place < 65536)
    (nonempty : before.eligibleIndexes ≠ []) (nowNs : ℕ) :
    before.Underway (called.resent place nowNs) := by
  refine ⟨underway.sndUna, fun index => ?_, fun empty => absurd empty nonempty⟩
  have related := underway.flagged index
  dsimp only [TcpConn.resent]
  rw [List.getElem?_modify]
  cases there : called.sndRetrans.entries[index]? with
  | none =>
      rw [there] at related
      exact related
  | some now =>
      rcases underway.flagged_at there with ⟨entry, found, flagged⟩
      rw [found]
      refine .some ?_
      split
      · rename_i here
        exact ⟨flagged.seq, flagged.len, flagged.mbuf, flagged.sacked,
          fun beyond => absurd beyond (by omega)⟩
      · exact flagged

end TcpConn.Underway

namespace Engine

variable {engine : Engine} {handle : ConnHandle} {before called : TcpConn}

/-- A call of `retransmit`, successful or not. -/
theorem underway_retransmit (present : engine.flowTable.get handle = some called)
    (underway : before.Underway called) {index : ℕ} (small : index < 65536)
    (nonempty : before.eligibleIndexes ≠ []) (env : RetransmitEnv) :
    ∃ after, (engine.retransmit handle index env).flowTable.get handle = some after ∧
      before.Underway after := by
  rcases retransmit_cases engine handle index env with
    ⟨change, _, _⟩ | ⟨_, _, _, _, _, ⟨change, _⟩ | ⟨_, pushed, change, sent⟩⟩
  · exact ⟨called, by rw [change.flowTable]; exact present, underway⟩
  · exact ⟨called, by rw [change.flowTable]; exact present, underway⟩
  · have stays : pushed.flowTable.get handle = some called := by
      rw [change.flowTable]
      exact present
    rw [sent]
    exact ⟨called.resent index env.nowNs, (FlowTable.get_modify _ handle).trans ((if_pos rfl).trans
      (congrArg (Option.map _) stays)), underway.resent small nonempty _⟩

/-- The calls of a loop, one after the other. -/
theorem underway_retransmitAll (present : engine.flowTable.get handle = some called)
    (underway : before.Underway called) {indexes : List ℕ} (small : ∀ index ∈ indexes, index < 65536)
    (nonempty : before.eligibleIndexes ≠ []) (envs : ℕ → RetransmitEnv) :
    ∃ after, (engine.retransmitAll handle envs indexes).flowTable.get handle = some after ∧
      before.Underway after := by
  induction indexes generalizing engine called envs with
  | nil => exact ⟨called, present, underway⟩
  | cons index rest ih =>
      rcases underway_retransmit present underway (small index (List.mem_cons_self ..))
        nonempty (envs 0) with ⟨after, live, underway'⟩
      exact ih live underway' (fun other member => small other (List.mem_cons_of_mem index member)) _

/-- The same for the loop behind a RACK pass. -/
theorem underway_retransmitRackLost (present : engine.flowTable.get handle = some called)
    (underway : before.Underway called) {indexes : List ℕ} (small : ∀ index ∈ indexes, index < 65536)
    (nonempty : before.eligibleIndexes ≠ []) (envs : ℕ → RetransmitEnv) :
    ∃ after, (engine.retransmitRackLost handle envs indexes).flowTable.get handle = some after ∧
      before.Underway after := by
  induction indexes generalizing engine called envs with
  | nil => exact ⟨called, present, underway⟩
  | cons index rest ih =>
      rcases underway_retransmit present underway (small index (List.mem_cons_self ..))
        nonempty (envs 0) with ⟨after, live, underway'⟩
      have smaller : ∀ other ∈ rest, other < 65536 :=
        fun other member => small other (List.mem_cons_of_mem index member)
      dsimp only [retransmitRackLost]
      refine ih ?_ underway' smaller _
      split
      · rw [(pushEvent_change _ _).flowTable, reportRetrans_flowTable]
        exact live
      · exact live

end Engine

theorem TcpConn.rtoLostIndexes_eligible {conn : TcpConn} {nowNs index : ℕ}
    (lost : index ∈ conn.rtoLostIndexes nowNs) : index ∈ conn.eligibleIndexes := by
  rcases mem_indexesWhere.mp lost with ⟨place, entry, same, found, passed⟩
  exact mem_eligibleIndexes.mpr ⟨place, entry, same, found, (Bool.and_eq_true_iff.mp passed).1⟩

theorem TcpConn.eligibleIndexes_small {conn : TcpConn} {index : ℕ}
    (eligible : index ∈ conn.eligibleIndexes) : index < 65536 := by
  rcases mem_eligibleIndexes.mp eligible with ⟨place, _, rfl, _, _⟩
  exact Nat.mod_lt place (by decide)

namespace Engine

variable {engine : Engine} {handle : ConnHandle} {conn : TcpConn}

/-- An RTO fire up to its retransmissions. -/
def rtoMarked (engine : Engine) (handle : ConnHandle) (firedId : TimerId) (lost : List ℕ) :
    Engine :=
  (engine.modifyConn handle fun conn =>
    { conn.withoutTimer firedId with rtoTimerId := none }).markLost handle lost

theorem rtoMarked_conn (present : engine.flowTable.get handle = some conn) (firedId : TimerId)
    (lost : List ℕ) :
    (engine.rtoMarked handle firedId lost).flowTable.get handle =
      some { conn.withoutTimer firedId with
        rtoTimerId := none
        sndRetrans := conn.sndRetrans.markLost lost } :=
  (FlowTable.get_modify _ handle).trans ((if_pos rfl).trans (congrArg (Option.map _)
    ((FlowTable.get_modify _ handle).trans ((if_pos rfl).trans (congrArg (Option.map _)
      present)))))

/-- A fire that finds entries marks, sends again and goes on. -/
theorem onRtoFire_eq (present : engine.flowTable.get handle = some conn) {firedId : TimerId}
    (own : conn.rtoTimerId = some firedId) (waiting : conn.sndRetrans.isEmpty = false)
    (env : RtoEnv) :
    engine.onRtoFire handle firedId env =
      (((engine.rtoMarked handle firedId (conn.rtoLostIndexes env.markNs)).retransmitAll handle
        env.retransmits (conn.rtoResends env.markNs)).reportRto handle
          (conn.rtoResends env.markNs) env.eventNs).rearmOrGiveUp handle conn.rtoNoBackoff
            env := by
  rw [onRtoFire, present]
  dsimp only
  rw [if_neg (not_not.mpr own), if_neg (by rw [waiting]; exact Bool.false_ne_true)]
  rfl

/-- The connection that an RTO timer finds stands in this relation to the one at each call of
`retransmit` that the fire makes. -/
theorem underway_onRtoFire (present : engine.flowTable.get handle = some conn) {firedId : TimerId}
    (own : conn.rtoTimerId = some firedId) (waiting : conn.sndRetrans.isEmpty = false)
    (env : RtoEnv) :
    ∃ marked : Engine,
      engine.onRtoFire handle firedId env =
          ((marked.retransmitAll handle env.retransmits (conn.rtoResends env.markNs)).reportRto
            handle (conn.rtoResends env.markNs) env.eventNs).rearmOrGiveUp handle
              conn.rtoNoBackoff env ∧
        ∀ done index rest, conn.rtoResends env.markNs = done ++ index :: rest →
          ∃ called, (marked.retransmitAll handle env.retransmits done).flowTable.get handle =
            some called ∧ conn.Underway called := by
  have flagged := rtoMarked_conn present firedId (conn.rtoLostIndexes env.markNs)
  refine ⟨_, onRtoFire_eq present own waiting env, ?_⟩
  intro done index rest chosen
  by_cases unchosen : conn.rtoLostIndexes env.markNs = []
  · -- the front entry is the only one, so no call comes before its own
    rw [TcpConn.rtoResends, if_pos unchosen] at chosen
    have first : done = [] := by
      cases done with
      | nil => rfl
      | cons other done => simp at chosen
    rw [first]
    refine ⟨_, flagged, ?_⟩
    rw [unchosen, markLost_nil]
    exact ⟨rfl, (TcpConn.Underway.refl conn).flagged, id⟩
  · rw [TcpConn.rtoResends, if_neg unchosen] at chosen
    have eligible : ∀ index ∈ conn.rtoLostIndexes env.markNs, index ∈ conn.eligibleIndexes :=
      fun index => TcpConn.rtoLostIndexes_eligible
    have nonempty : conn.eligibleIndexes ≠ [] := by
      refine List.ne_nil_of_mem (eligible index ?_)
      rw [chosen]
      simp
    refine underway_retransmitAll flagged (.marked ?_ nonempty rfl rfl) ?_ nonempty _
    · exact fun index lost => TcpConn.eligibleIndexes_small (eligible index lost)
    · intro index member
      refine TcpConn.eligibleIndexes_small (eligible index ?_)
      rw [chosen]
      exact List.mem_append_left _ member

/-- The connection before a RACK pass stands in it to the one at each call that follows. -/
theorem underway_rackPass {marked : TcpConn} (present : engine.flowTable.get handle = some marked)
    {nowNs : ℕ} (sndUna : marked.sndUna = conn.sndUna)
    (raised : marked.sndRetrans = conn.sndRetrans.markLost (conn.rackResends nowNs))
    (envs : ℕ → RetransmitEnv) {done rest : List ℕ} {index : ℕ}
    (chosen : conn.rackResends nowNs = done ++ index :: rest) :
    ∃ called, (engine.retransmitRackLost handle envs done).flowTable.get handle = some called ∧
      conn.Underway called := by
  have eligible : ∀ index ∈ conn.rackResends nowNs, index ∈ conn.eligibleIndexes :=
    fun index => TcpConn.rackResends_eligible
  have nonempty : conn.eligibleIndexes ≠ [] := by
    refine List.ne_nil_of_mem (eligible index ?_)
    rw [chosen]
    simp
  refine underway_retransmitRackLost present (.marked ?_ nonempty sndUna raised) ?_ nonempty envs
  · exact fun index lost => TcpConn.eligibleIndexes_small (eligible index lost)
  · intro index member
    refine TcpConn.eligibleIndexes_small (eligible index ?_)
    rw [chosen]
    exact List.mem_append_left _ member

end Engine

/-! ### A failed call -/

/-- Two more bytes go out in the buffer at address 2, one millisecond later. -/
def sentPair : Engine :=
  (sentThree.sendBytes 1 [4, 5] (fun _ => ⟨some 2, true, 0, 6000000, 6000000⟩) 6000000).1

/-- A retransmission with a header in the buffer at address 3. -/
def withHeaderMbuf : RetransmitEnv :=
  ⟨1, some 3, true, true, 0, 10000000, 10000000, 10000000⟩

end DpdkTcp
