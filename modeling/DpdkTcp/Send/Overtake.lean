import DpdkTcp.Send.Sequence

/-!
# Data in order, and a FIN that does not wait

In every run the data of a connection leaves in the order of its sequence
numbers. `close_conn` hands its FIN over past the ring, so the FIN leaves behind
all data exactly when the ring holds none of the connection at that moment.
-/

namespace DpdkTcp

open Lanes

/-- News of one connection are behind what it numbered before. -/
theorem FirstSent.filter_append {news : List FirstSent} {target : ConnHandle} {current : ℕ}
    (own : ∀ first ∈ news, first.isOf target current = true) (before : List FirstSent)
    (handle : ConnHandle) (incarnation : ℕ) :
    (before ++ news).filter (FirstSent.isOf handle incarnation) =
      if handle = target ∧ incarnation = current then
        before.filter (FirstSent.isOf target current) ++ news
      else before.filter (FirstSent.isOf handle incarnation) := by
  rw [List.filter_append]
  split
  · rename_i same
    rw [same.1, same.2, List.filter_eq_self.mpr own]
  · rename_i apart
    have others : news.filter (FirstSent.isOf handle incarnation) = [] := by
      rw [List.filter_eq_nil_iff]
      intro first member isOf
      have here := of_decide_eq_true (own first member)
      have there := of_decide_eq_true isOf
      exact apart ⟨there.1.symm.trans here.1, there.2.symm.trans here.2⟩
    rw [others, List.append_nil]

namespace Engine

/-- The segments a connection gave sequence numbers. -/
def numbered (engine : Engine) (handle : ConnHandle) (incarnation : ℕ) : List FirstSent :=
  engine.record.assigned.filter (FirstSent.isOf handle incarnation)

/-- What is numbered follows each other, and a live connection continues it. -/
structure Numbered (engine : Engine) : Prop where
  young : ∀ first ∈ engine.record.assigned,
    first.incarnation ≤ engine.record.incarnation first.handle
  runs : ∀ handle incarnation, InSequence (engine.numbered handle incarnation)
  data : ∀ handle incarnation,
    InSequence ((engine.numbered handle incarnation).filter fun first => !first.fin)
  reaches : ∀ handle conn, engine.flowTable.get handle = some conn →
    ∃ start, RunsTo start (engine.numbered handle (engine.record.incarnation handle)) conn.sndNxt
  unfinished : ∀ handle conn, engine.flowTable.get handle = some conn → conn.state.early →
    ∀ first ∈ engine.numbered handle (engine.record.incarnation handle), first.fin = false

variable {closes : ConnHandle → Prop} {engine after : Engine}

/-- Nothing is numbered before its connection is opened. -/
theorem Numbered.unopened (numbered : engine.Numbered) (handle : ConnHandle) :
    engine.numbered handle (engine.record.incarnation handle + 1) = [] := by
  rw [Engine.numbered, List.filter_eq_nil_iff]
  intro first member isOf
  have own := of_decide_eq_true isOf
  have young := numbered.young first member
  rw [own.1, own.2] at young
  exact absurd young (Nat.not_succ_le_self _)

/-- Segments without a FIN are all data. -/
theorem data_eq_self {segments : List FirstSent}
    (unfinished : ∀ first ∈ segments, first.fin = false) :
    segments.filter (fun first => !first.fin) = segments := by
  rw [List.filter_eq_self]
  intro first member
  rw [unfinished first member]
  rfl

/-- News of one connection that continue what it numbered. -/
theorem Numbered.grow (numbered : engine.Numbered) {news : List FirstSent} {target : ConnHandle}
    {current : ℕ} (given : after.record.assigned = engine.record.assigned ++ news)
    (own : ∀ first ∈ news, first.isOf target current = true)
    (newest : after.record.incarnation target = current)
    (older : engine.record.incarnation target ≤ current)
    (follows : InSequence (engine.numbered target current ++ news))
    (data : InSequence ((engine.numbered target current ++ news).filter fun first => !first.fin))
    (reaches : ∀ conn', after.flowTable.get target = some conn' →
      ∃ start, RunsTo start (engine.numbered target current ++ news) conn'.sndNxt)
    (unfinished : ∀ conn', after.flowTable.get target = some conn' → conn'.state.early →
      ∀ first ∈ engine.numbered target current ++ news, first.fin = false)
    (same : ∀ other, other ≠ target →
      after.record.incarnation other = engine.record.incarnation other)
    (others : ∀ other conn', other ≠ target → after.flowTable.get other = some conn' →
      ∃ conn, engine.flowTable.get other = some conn ∧ SameEdge conn conn') :
    after.Numbered := by
  have segments : ∀ handle incarnation, after.numbered handle incarnation =
      if handle = target ∧ incarnation = current then engine.numbered target current ++ news
      else engine.numbered handle incarnation := by
    intro handle incarnation
    rw [Engine.numbered, given]
    exact FirstSent.filter_append own _ handle incarnation
  have apart : ∀ other incarnation, other ≠ target →
      after.numbered other incarnation = engine.numbered other incarnation := by
    intro other incarnation differs
    rw [segments, if_neg fun both => differs both.1]
  have here : after.numbered target current = engine.numbered target current ++ news := by
    rw [segments, if_pos ⟨rfl, rfl⟩]
  refine ⟨?_, ?_, ?_, ?_, ?_⟩
  · intro first member
    rw [given] at member
    rcases List.mem_append.mp member with old | new
    · have young := numbered.young first old
      by_cases isTarget : first.handle = target
      · rw [isTarget] at young ⊢
        rw [newest]
        exact young.trans older
      · rw [same _ isTarget]
        exact young
    · have isOf := of_decide_eq_true (own first new)
      rw [isOf.1, isOf.2, newest]
  · intro handle incarnation
    rw [segments]
    split
    · exact follows
    · exact numbered.runs handle incarnation
  · intro handle incarnation
    rw [segments]
    split
    · exact data
    · exact numbered.data handle incarnation
  · intro handle conn' live
    by_cases isTarget : handle = target
    · subst isTarget
      rw [newest, here]
      exact reaches conn' live
    · rcases others handle conn' isTarget live with ⟨conn, present, edge, _⟩
      rw [same _ isTarget, apart _ _ isTarget, edge]
      exact numbered.reaches handle conn present
  · intro handle conn' live early
    by_cases isTarget : handle = target
    · subst isTarget
      rw [newest, here]
      exact unfinished conn' live early
    · rcases others handle conn' isTarget live with ⟨conn, present, _, wasEarly⟩
      rw [same _ isTarget, apart _ _ isTarget]
      exact numbered.unfinished handle conn present (wasEarly early)

theorem Numbered.step (numbered : engine.Numbered) (step : engine.Numbers closes after) :
    after.Numbered := by
  cases step with
  | more target news opened taken advances own data sends conns =>
      have same : ∀ handle, after.record.incarnation handle =
          engine.record.incarnation handle := by
        intro handle
        rw [Record.incarnation, opened, Record.incarnation]
      have follows : InSequence
          (engine.numbered target (engine.record.incarnation target) ++ news) ∧
          InSequence ((engine.numbered target (engine.record.incarnation target) ++ news).filter
            fun first => !first.fin) := by
        by_cases nothing : news = []
        · rw [nothing, List.append_nil]
          exact ⟨numbered.runs _ _, numbered.data _ _⟩
        · rcases sends nothing with ⟨conn, stop, present, early, runs⟩
          rcases numbered.reaches target conn present with ⟨start, sofar⟩
          have ordered : InSequence
              (engine.numbered target (engine.record.incarnation target) ++ news) :=
            ⟨start, stop, sofar.append runs⟩
          refine ⟨ordered, ?_⟩
          rw [List.filter_append, data_eq_self (numbered.unfinished target conn present early),
            data_eq_self data]
          exact ordered
      refine numbered.grow advances.given own (same target) le_rfl follows.1 follows.2 ?_ ?_
        (fun other _ => same other) ?_
      · intro conn' live
        rcases conns target conn' live with ⟨conn, present, _, edge⟩
        rw [if_pos rfl] at edge
        rcases numbered.reaches target conn present with ⟨start, sofar⟩
        exact ⟨start, sofar.append edge⟩
      · intro conn' live early first member
        rcases conns target conn' live with ⟨conn, present, wasEarly, _⟩
        rcases List.mem_append.mp member with old | new
        · exact numbered.unfinished target conn present (wasEarly early) first old
        · exact data first new
      · intro other conn' apart live
        rcases conns other conn' live with ⟨conn, present, wasEarly, edge⟩
        rw [if_neg apart] at edge
        exact ⟨conn, present, edge, wasEarly⟩
  | fin present closing opened taken passed edge others =>
      rename_i target conn
      have same : ∀ handle, after.record.incarnation handle =
          engine.record.incarnation handle := by
        intro handle
        rw [Record.incarnation, opened, Record.incarnation]
      rcases numbered.reaches target conn present with ⟨start, sofar⟩
      have runs : RunsTo start (engine.numbered target (engine.record.incarnation target) ++
          [engine.firstSent target conn.sndNxt 1 true]) (seqAdd conn.sndNxt 1) :=
        sofar.append ⟨rfl, Nat.one_pos, rfl⟩
      refine numbered.grow (passed.given.trans (List.append_nil _)) ?_ (same target) le_rfl
        ⟨start, _, runs⟩ ?_ ?_ ?_ (fun other _ => same other) others
      · intro first member
        rw [List.mem_singleton.mp member]
        exact decide_eq_true ⟨rfl, rfl⟩
      · rw [List.filter_append, List.filter_cons_of_neg (by simp [firstSent]), List.filter_nil,
          List.append_nil]
        exact numbered.data _ _
      · intro conn' live
        rw [(edge conn' live).1]
        exact ⟨start, runs⟩
      · intro conn' live early
        exact absurd early (edge conn' live).2
  | syn vacant opened taken passed opening others =>
      rename_i fresh iss
      have count : after.record.incarnation fresh = engine.record.incarnation fresh + 1 := by
        rw [Record.incarnation, opened, List.count_append, List.count_singleton_self]
        rfl
      have runs : RunsTo iss (engine.numbered fresh (engine.record.incarnation fresh + 1) ++
          [⟨fresh, engine.record.incarnation fresh + 1, iss, 1, false⟩]) (seqAdd iss 1) := by
        rw [numbered.unopened, List.nil_append]
        exact ⟨rfl, Nat.one_pos, rfl⟩
      have early : ∀ first ∈ engine.numbered fresh (engine.record.incarnation fresh + 1) ++
          [⟨fresh, engine.record.incarnation fresh + 1, iss, 1, false⟩], first.fin = false := by
        intro first member
        rw [numbered.unopened, List.nil_append] at member
        rw [List.mem_singleton.mp member]
      refine numbered.grow (passed.given.trans (List.append_nil _)) ?_ count (Nat.le_succ _)
        ⟨iss, _, runs⟩ ?_ ?_ (fun _ _ _ => early) ?_ others
      · intro first member
        rw [List.mem_singleton.mp member]
        exact decide_eq_true ⟨rfl, rfl⟩
      · rw [data_eq_self early]
        exact ⟨iss, _, runs⟩
      · intro conn' live
        rw [opening conn' live]
        exact ⟨iss, runs⟩
      · intro other apart
        rw [Record.incarnation, opened, List.count_append,
          List.count_singleton, if_neg (by simpa using Ne.symm apart)]
        rfl

/-- `Engine::drop` numbers nothing and leaves no connection. -/
theorem Numbered.drop (numbered : engine.Numbered) : engine.drop.Numbered := by
  have record : engine.drop.record = engine.record := by
    unfold Engine.drop
    rw [releaseMbufs_only]
  have segments : ∀ handle incarnation, engine.drop.numbered handle incarnation =
      engine.numbered handle incarnation := by
    intro handle incarnation
    rw [Engine.numbered, record, Engine.numbered]
  refine ⟨?_, ?_, ?_, ?_, ?_⟩
  · rw [record]
    exact numbered.young
  · intro handle incarnation
    rw [segments]
    exact numbered.runs handle incarnation
  · intro handle incarnation
    rw [segments]
    exact numbered.data handle incarnation
  · intro handle conn live
    rw [Host.drop_get] at live
    cases live
  · intro handle conn live
    rw [Host.drop_get] at live
    cases live

/-! ### What the ring holds back -/

/-- The segments of a connection that count. -/
def lane (counted : FirstSent → Bool) (handle : ConnHandle) (incarnation : ℕ)
    (first : FirstSent) : Bool :=
  first.isOf handle incarnation && counted first

/-- What counts is handed over in the order it was numbered, and of a live connection
all of it. -/
structure Tracked (counted : FirstSent → Bool) (engine : Engine) : Prop where
  ordered : ∀ handle incarnation, engine.desk.Ordered (lane counted handle incarnation)
  whole : ∀ handle conn, engine.flowTable.get handle = some conn →
    engine.desk.Whole (lane counted handle (engine.record.incarnation handle))

variable {counted : FirstSent → Bool}

/-- A lane without news. -/
theorem lane_others {news : List FirstSent} {target : ConnHandle} {current : ℕ}
    (own : ∀ first ∈ news, first.isOf target current = true) {handle : ConnHandle}
    {incarnation : ℕ} (apart : ¬ (handle = target ∧ incarnation = current)) :
    news.filter (lane counted handle incarnation) = [] := by
  rw [List.filter_eq_nil_iff]
  intro first member inLane
  have here := of_decide_eq_true (own first member)
  have there := of_decide_eq_true (Bool.and_eq_true_iff.mp inLane).1
  exact apart ⟨there.1.symm.trans here.1, there.2.symm.trans here.2⟩

/-- A segment is handed over at once while nothing that counts of its connection waits. -/
theorem Tracked.pass {first : FirstSent} {target : ConnHandle} {current : ℕ}
    (tracked : engine.Tracked counted) (own : first.isOf target current = true)
    (passed : Desk.Advances [] (engine.desk.pass first) after.desk)
    (newest : after.record.incarnation target = current)
    (behind : engine.desk.Whole (lane counted target current))
    (clear : counted first = true → engine.desk.waiting.filter (lane counted target current) = [])
    (same : ∀ other, other ≠ target →
      after.record.incarnation other = engine.record.incarnation other)
    (others : ∀ other conn', other ≠ target → after.flowTable.get other = some conn' →
      ∃ conn, engine.flowTable.get other = some conn) :
    after.Tracked counted := by
  have here : after.desk.Whole (lane counted target current) :=
    passed.whole (behind.pass fun inLane => clear (Bool.and_eq_true_iff.mp inLane).2)
  have outside : ∀ {handle incarnation}, ¬ (handle = target ∧ incarnation = current) →
      lane counted handle incarnation first = false := by
    intro handle incarnation apart
    have isOf := of_decide_eq_true own
    rw [lane, Bool.and_eq_false_iff]
    refine Or.inl (decide_eq_false ?_)
    rw [isOf.1, isOf.2]
    exact fun both => apart ⟨both.1.symm, both.2.symm⟩
  constructor
  · intro handle incarnation
    by_cases key : handle = target ∧ incarnation = current
    · rw [key.1, key.2]
      exact here.ordered
    · exact passed.ordered ((tracked.ordered handle incarnation).pass (outside key)) rfl
  · intro handle conn' live
    by_cases isTarget : handle = target
    · rw [isTarget, newest]
      exact here
    · rcases others handle conn' isTarget live with ⟨conn, present⟩
      have apart : ¬ (handle = target ∧ engine.record.incarnation handle = current) :=
        fun both => isTarget both.1
      rw [same _ isTarget]
      refine passed.whole ((tracked.whole handle conn present).pass fun inLane => ?_)
      rw [outside apart] at inLane
      cases inLane

theorem Tracked.step (tracked : engine.Tracked counted) (numbered : engine.Numbered)
    (step : engine.Numbers closes after)
    (waits : ∀ target conn, closes target → engine.flowTable.get target = some conn →
      counted (engine.firstSent target conn.sndNxt 1 true) = true →
      engine.desk.waiting.filter (lane counted target (engine.record.incarnation target)) = []) :
    after.Tracked counted := by
  cases step with
  | more target news opened taken advances own data sends conns =>
      have same : ∀ handle, after.record.incarnation handle =
          engine.record.incarnation handle := by
        intro handle
        rw [Record.incarnation, opened, Record.incarnation]
      constructor
      · intro handle incarnation
        by_cases nothing : news = []
        · rw [nothing] at advances
          exact advances.ordered (tracked.ordered handle incarnation) rfl
        by_cases key : handle = target ∧ incarnation = engine.record.incarnation target
        · rcases sends nothing with ⟨conn, _, present, _, _⟩
          rw [key.1, key.2]
          exact (advances.whole (tracked.whole target conn present)).ordered
        · exact advances.ordered (tracked.ordered handle incarnation) (lane_others own key)
      · intro handle conn' live
        rcases conns handle conn' live with ⟨conn, present, _⟩
        rw [same]
        exact advances.whole (tracked.whole handle conn present)
  | fin present closing opened taken passed edge others =>
      rename_i target conn
      have same : ∀ handle, after.record.incarnation handle =
          engine.record.incarnation handle := by
        intro handle
        rw [Record.incarnation, opened, Record.incarnation]
      refine tracked.pass (decide_eq_true ⟨rfl, rfl⟩) passed (same target)
        (tracked.whole target conn present) (waits target conn closing present)
        (fun other _ => same other) ?_
      intro other conn' apart live
      rcases others other conn' apart live with ⟨before, there, _⟩
      exact ⟨before, there⟩
  | syn vacant opened taken passed opening others =>
      rename_i fresh iss
      have count : after.record.incarnation fresh = engine.record.incarnation fresh + 1 := by
        rw [Record.incarnation, opened, List.count_append, List.count_singleton_self]
        rfl
      have nothing : engine.desk.given.filter
          (lane counted fresh (engine.record.incarnation fresh + 1)) = [] := by
        have unopened := List.filter_eq_nil_iff.mp (numbered.unopened fresh)
        rw [List.filter_eq_nil_iff]
        intro first member inLane
        exact unopened first member (Bool.and_eq_true_iff.mp inLane).1
      have idle := (tracked.ordered fresh (engine.record.incarnation fresh + 1)).queued_nil nothing
      refine tracked.pass (decide_eq_true ⟨rfl, rfl⟩) passed count (idle.trans nothing.symm) ?_
        ?_ ?_
      · intro _
        rw [Desk.queued, List.filter_append] at idle
        exact (List.append_eq_nil_iff.mp idle).2
      · intro other apart
        rw [Record.incarnation, opened, List.count_append,
          List.count_singleton, if_neg (by simpa using Ne.symm apart)]
        rfl
      · intro other conn' apart live
        rcases others other conn' apart live with ⟨conn, there, _⟩
        exact ⟨conn, there⟩

/-- `Engine::drop` loses the ring and every connection. -/
theorem Tracked.drop (tracked : engine.Tracked counted) : engine.drop.Tracked counted := by
  have desk : engine.drop.desk = { engine.desk with waiting := [] } := by
    unfold Engine.drop
    rw [releaseMbufs_only]
    rfl
  constructor
  · intro handle incarnation
    rw [desk]
    exact (tracked.ordered handle incarnation).lose
  · intro handle conn live
    rw [Host.drop_get] at live
    cases live

theorem Numbers.taken (step : engine.Numbers closes after) : engine.Taken → after.Taken := by
  cases step with
  | more _ _ _ taken => exact taken
  | fin _ _ _ taken => exact taken
  | syn _ _ taken => exact taken

end Engine

namespace Host

/-- `close_conn` sends the FIN of a connection while data of it waits on the ring. -/
def overtakes (host : Host) (handle : ConnHandle) (op : SystemOp) : Bool :=
  host.sendsFin handle op &&
    host.engine.desk.waiting.any (FirstSent.isOf handle (host.engine.record.incarnation handle))

/-- What the numbers of the segments and the order they were handed over in are like. -/
structure Sorted (counted : FirstSent → Bool) (host : Host) : Prop where
  numbered : host.engine.Numbered
  tracked : host.engine.Tracked counted
  taken : host.engine.Taken

theorem Sorted.step {counted : FirstSent → Bool} {host : Host} (sorted : host.Sorted counted)
    {op : SystemOp}
    (waits : ∀ first, counted first = true → first.fin = true →
      host.overtakes first.handle op = false) : (host.systemStep op).Sorted counted := by
  have lived : op.live = true → (host.systemStep op).Sorted counted := by
    intro live
    have numbers := host.systemStep_numbers live
    refine ⟨sorted.numbered.step numbers, sorted.tracked.step sorted.numbered numbers ?_,
      numbers.taken sorted.taken⟩
    intro target conn closing _ counts
    have nothing : host.overtakes target op = false := waits _ counts rfl
    rw [overtakes, closing, Bool.true_and, List.any_eq_false] at nothing
    rw [List.filter_eq_nil_iff]
    intro first member inLane
    exact nothing first member (Bool.and_eq_true_iff.mp inLane).1
  cases op with
  | call op => exact lived rfl
  | complete index => exact lived rfl
  | drainEvents max => exact lived rfl
  | drop =>
      refine ⟨sorted.numbered.drop, sorted.tracked.drop, ?_⟩
      have record : host.engine.drop.record = host.engine.record := by
        unfold Engine.drop
        rw [Engine.releaseMbufs_only]
      rw [systemStep, Engine.Taken, record]
      exact sorted.taken

theorem Sorted.start (counted : FirstSent → Bool) (cfg : EngineConfig)
    (maxConnections eventSoftCap : ℕ) :
    (Host.start cfg maxConnections eventSoftCap).Sorted counted := by
  have nobody : ∀ handle, (Host.start cfg maxConnections eventSoftCap).engine.flowTable.get
      handle = none := get_start cfg maxConnections eventSoftCap
  refine ⟨⟨?_, ?_, ?_, ?_, ?_⟩, ⟨?_, ?_⟩, .refl _⟩
  · rintro _ ⟨⟩
  · exact fun _ _ => ⟨0, 0, rfl⟩
  · exact fun _ _ => ⟨0, 0, rfl⟩
  · intro handle conn live
    rw [nobody] at live
    cases live
  · intro handle conn live
    rw [nobody] at live
    cases live
  · exact fun _ _ => ⟨[], rfl⟩
  · intro handle conn live
    rw [nobody] at live
    cases live

end Host

namespace Engine

/-- The segments of a connection that were handed to the driver for the first time. -/
def handedOver (engine : Engine) (handle : ConnHandle) (incarnation : ℕ) : List FirstSent :=
  engine.record.offered.filter (FirstSent.isOf handle incarnation)

theorem filter_lane (counted : FirstSent → Bool) (handle : ConnHandle) (incarnation : ℕ)
    (segments : List FirstSent) :
    segments.filter (lane counted handle incarnation) =
      (segments.filter (FirstSent.isOf handle incarnation)).filter counted := by
  rw [List.filter_filter]
  congr 1
  funext first
  exact Bool.and_comm _ _

theorem Tracked.handedOver {counted : FirstSent → Bool} {engine : Engine}
    (tracked : engine.Tracked counted) (handle : ConnHandle) (incarnation : ℕ) :
    (engine.handedOver handle incarnation).filter counted <+:
      (engine.numbered handle incarnation).filter counted := by
  have ordered := (tracked.ordered handle incarnation).handed
  rw [filter_lane, filter_lane] at ordered
  exact ordered

end Engine

/-- The SYN and the data. -/
def withoutFin (segments : List FirstSent) : List FirstSent :=
  segments.filter fun first => !first.fin

/-- Each segment was numbered from where the one before it ends, and those handed over
are the first of them. -/
structure LeavesInOrder (numbered handedOver : List FirstSent) : Prop where
  sequence : InSequence numbered
  first : handedOver <+: numbered

/-- In every run the SYN and the data of a connection are handed to the driver in the
order of their sequence numbers, and the driver takes no other segments. The FIN is
among them in that order, behind all data, where no `close_conn` of the handle sends it
while data waits. -/
theorem first_transmissions_in_order (cfg : EngineConfig) (maxConnections eventSoftCap : ℕ)
    (handle : ConnHandle) (incarnation : ℕ) :
    (∀ host, Run.Reaches Host.systemStep (fun _ _ => True)
        (Host.start cfg maxConnections eventSoftCap) host →
      LeavesInOrder (withoutFin (host.engine.numbered handle incarnation))
        (withoutFin (host.engine.handedOver handle incarnation)) ∧ host.engine.Taken) ∧
    ∀ host, Run.Reaches Host.systemStep (fun host op => (!host.overtakes handle op) = true)
        (Host.start cfg maxConnections eventSoftCap) host →
      LeavesInOrder (host.engine.numbered handle incarnation)
        (host.engine.handedOver handle incarnation) := by
  constructor
  · intro host run
    have sorted : host.Sorted fun first => !first.fin := by
      apply run.invariant (Host.Sorted.start _ cfg maxConnections eventSoftCap)
      intro host op sorted _
      apply sorted.step
      intro first counts isFin
      rw [isFin] at counts
      cases counts
    exact ⟨⟨sorted.numbered.data handle incarnation, sorted.tracked.handedOver handle incarnation⟩,
      sorted.taken⟩
  · intro host run
    have sorted : host.Sorted fun first => !first.fin || decide (first.handle = handle) := by
      apply run.invariant (Host.Sorted.start _ cfg maxConnections eventSoftCap)
      intro host op sorted taken
      apply sorted.step
      intro first counts isFin
      rw [isFin, Bool.not_true, Bool.false_or] at counts
      rw [of_decide_eq_true counts]
      rwa [Bool.not_eq_true'] at taken
    have counted : ∀ segments : List FirstSent,
        (segments.filter (FirstSent.isOf handle incarnation)).filter
          (fun first => !first.fin || decide (first.handle = handle)) =
        segments.filter (FirstSent.isOf handle incarnation) := by
      intro segments
      rw [List.filter_eq_self]
      intro first member
      have own := of_decide_eq_true (List.mem_filter.mp member).2
      rw [decide_eq_true own.1, Bool.or_true]
    have first := sorted.tracked.handedOver handle incarnation
    rw [Engine.handedOver, Engine.numbered, counted, counted] at first
    exact ⟨sorted.numbered.runs handle incarnation, first⟩

/-- Three bytes are sent and the connection is closed; the ring is flushed before that or
behind it. -/
def sendAndClose (flushFirst : Bool) : List SystemOp :=
  (handshake ++ sendAt 2000 [1, 2, 3] 1 ::
    if flushFirst then [.flush 1, .close 1 true 3000] else [.close 1 true 3000, .flush 1]).map .call

theorem first_transmissions_in_order_sendAndClose :
    (LeavesInOrder
      (withoutFin (((sendAndClose false).foldl Host.systemStep
        (Host.start quickCfg 1 64)).engine.numbered 1 1))
      (withoutFin (((sendAndClose false).foldl Host.systemStep
        (Host.start quickCfg 1 64)).engine.handedOver 1 1)) ∧
      ((sendAndClose false).foldl Host.systemStep (Host.start quickCfg 1 64)).engine.Taken) ∧
    LeavesInOrder
      (((sendAndClose true).foldl Host.systemStep
        (Host.start quickCfg 1 64)).engine.numbered 1 1)
      (((sendAndClose true).foldl Host.systemStep
        (Host.start quickCfg 1 64)).engine.handedOver 1 1) :=
  ⟨(first_transmissions_in_order quickCfg 1 64 1 1).1 _ (.foldl _ _),
    (first_transmissions_in_order quickCfg 1 64 1 1).2 _
      (.of_admits (by decide +kernel : Run.admits Host.systemStep
        (fun host op => !host.overtakes 1 op) (Host.start quickCfg 1 64) (sendAndClose true) =
          true))⟩

/-- Closed before the ring is flushed, the FIN 104 leaves before the data 101. -/
theorem fin_overtakes_data :
    ¬ ∀ host, Run.Reaches Host.systemStep (fun _ _ => True) (Host.start quickCfg 1 64) host →
      (host.engine.handedOver 1 1).IsChain fun first next => seqLt first.seq next.seq = true := by
  intro increasing
  have leaves := increasing _ (.foldl (sendAndClose false) _)
  have order : ((sendAndClose false).foldl Host.systemStep
      (Host.start quickCfg 1 64)).engine.handedOver 1 1 =
      [⟨1, 1, 100#32, 1, false⟩, ⟨1, 1, 104#32, 1, true⟩, ⟨1, 1, 101#32, 3, false⟩] := by
    decide +kernel
  rw [order] at leaves
  revert leaves
  decide

end DpdkTcp
