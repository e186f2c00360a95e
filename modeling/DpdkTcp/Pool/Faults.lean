import Mathlib.Data.Multiset.Bind
import DpdkTcp.Lib.Run
import DpdkTcp.Model.FaultInjector

/-!
# The fault injector loses no frame

A frame comes in with one reference to each of its buffers, and a duplicate adds
one more. A ledger of what came in, went out and was freed stands beside the
injector; whatever the draws decide, every reference is in exactly one place,
and the counts of the buffers are those of the frames in the ring and of the
emissions that are not yet freed.
-/

namespace DpdkTcp

namespace MbufChain

/-- The references some frames hold to their buffers. -/
def refsOf (chains : Multiset MbufChain) : Multiset ℕ :=
  chains.bind fun chain => (chain.segs : Multiset ℕ)

@[simp]
theorem refsOf_add (left right : Multiset MbufChain) :
    refsOf (left + right) = refsOf left + refsOf right :=
  Multiset.add_bind _ _ _

@[simp]
theorem refsOf_singleton (chain : MbufChain) : refsOf {chain} = (chain.segs : Multiset ℕ) :=
  Multiset.singleton_bind _ _

end MbufChain

open MbufChain

/-! ### One call -/

namespace FaultResult

variable {before : FaultResult} {draws : FaultDraws}

/-- How the ring takes part in a call. -/
structure Swaps (before after : FaultResult) : Prop where
  conserved : (after.out : Multiset MbufChain) + after.state.injector.held =
    before.out + before.state.injector.held
  ordered : before.state.injector.held ++ after.stored =
    after.evicted ++ after.state.injector.held
  emitted : after.evicted.Sublist after.out
  bounded : before.state.injector.held.length ≤ REORDER_RING_LEN →
    after.state.injector.held.length ≤ REORDER_RING_LEN
  mem : after.state.mem = before.state.mem
  drops : after.state.counters.drops = before.state.counters.drops
  dups : after.state.counters.dups = before.state.counters.dups

theorem holdBack_swaps (stored : before.stored = []) (evicted : before.evicted = []) :
    Swaps before (FaultState.holdBack before draws) := by
  have unmoved : Swaps before before :=
    ⟨rfl, by rw [stored, evicted, List.append_nil, List.nil_append],
      by rw [evicted]; exact List.nil_sublist _, id, rfl, rfl, rfl⟩
  unfold FaultState.holdBack
  split
  · split
    · exact unmoved
    · rename_i held last
      have parts : before.out = before.out.dropLast ++ [held] :=
        (List.dropLast_append_getLast? held last).symm
      dsimp only
      split
      · -- the ring is full: the oldest frame goes out for the new one
        rename_i full
        have ring : before.state.injector.held.take 1 ++ before.state.injector.held.drop 1 =
            before.state.injector.held := List.take_append_drop _ _
        refine ⟨?_, ?_, ?_, ?_, rfl, rfl, rfl⟩
        · conv_rhs => rw [parts, ← ring]
          dsimp only [FaultInjector.held, Option.getD_some]
          simp only [← Multiset.coe_add]
          ac_rfl
        · dsimp only [FaultInjector.held, Option.getD_some]
          rw [← List.append_assoc]
          exact congrArg (· ++ [held]) ring.symm
        · exact List.sublist_append_right _ _
        · intro bounded
          dsimp only [FaultInjector.held, Option.getD_some] at full ⊢
          rw [List.length_append, List.length_drop, List.length_singleton, full]
          decide
      · rename_i room
        refine ⟨?_, rfl, List.nil_sublist _, ?_, rfl, rfl, rfl⟩
        · conv_rhs => rw [parts]
          dsimp only [FaultInjector.held, Option.getD_some]
          simp only [← Multiset.coe_add]
          ac_rfl
        · intro bounded
          dsimp only [FaultInjector.held, Option.getD_some] at room bounded ⊢
          rw [List.length_append, List.length_singleton]
          omega
  · exact unmoved

end FaultResult

namespace FaultDraws

/-- The references a call adds. -/
def added (draws : FaultDraws) (mbuf : MbufChain) : List MbufChain :=
  if draws.drop = false ∧ draws.dup = true then [mbuf] else []

/-- The references a call frees. -/
def freed (draws : FaultDraws) (mbuf : MbufChain) : List MbufChain :=
  if draws.drop then [mbuf] else []

/-- The references to the frame behind the draws for a drop and a duplicate. -/
def kept (draws : FaultDraws) (mbuf : MbufChain) : List MbufChain :=
  if draws.drop then [] else if draws.dup then [mbuf, mbuf] else [mbuf]

theorem kept_add_freed (draws : FaultDraws) (mbuf : MbufChain) :
    (draws.kept mbuf : Multiset MbufChain) + draws.freed mbuf = {mbuf} + draws.added mbuf := by
  unfold kept freed added
  cases draws.drop <;> cases draws.dup <;> rfl

end FaultDraws

namespace FaultState

variable {state : FaultState} {mbuf : MbufChain} {draws : FaultDraws}

/-- Where the references are after a call. -/
structure Processed (state : FaultState) (mbuf : MbufChain) (draws : FaultDraws)
    (result : FaultResult) : Prop where
  conserved : (draws.kept mbuf : Multiset MbufChain) + state.injector.held =
    result.out + result.state.injector.held
  ordered : state.injector.held ++ result.stored = result.evicted ++ result.state.injector.held
  emitted : result.evicted.Sublist result.out
  bounded : state.injector.held.length ≤ REORDER_RING_LEN →
    result.state.injector.held.length ≤ REORDER_RING_LEN
  drops : result.state.counters.drops = state.counters.drops + (draws.freed mbuf).length
  dups : result.state.counters.dups = state.counters.dups + (draws.added mbuf).length

theorem corruptHead_kept (state : FaultState) (mbuf : MbufChain) (draws : FaultDraws) :
    (state.corruptHead mbuf draws).injector = state.injector ∧
      (state.corruptHead mbuf draws).mem.refs = state.mem.refs ∧
      (state.corruptHead mbuf draws).counters.drops = state.counters.drops ∧
      (state.corruptHead mbuf draws).counters.dups = state.counters.dups := by
  unfold corruptHead
  split
  · split
    · exact ⟨rfl, rfl, rfl, rfl⟩
    · exact ⟨rfl, rfl, rfl, rfl⟩
  · exact ⟨rfl, rfl, rfl, rfl⟩

theorem process_passed (passed : draws.drop = false) :
    FaultResult.Swaps ((state.corruptHead mbuf draws).duplicate mbuf draws)
      (state.process mbuf draws) := by
  have same : state.process mbuf draws =
      holdBack ((state.corruptHead mbuf draws).duplicate mbuf draws) draws := by
    unfold process
    rw [passed]
    rfl
  rw [same]
  apply FaultResult.holdBack_swaps <;> unfold duplicate <;> split <;> rfl

theorem processed (state : FaultState) (mbuf : MbufChain) (draws : FaultDraws) :
    Processed state mbuf draws (state.process mbuf draws) := by
  cases dropped : draws.drop with
  | true =>
      have same : state.process mbuf draws =
          { state :=
              { state with
                mem := state.mem.pktmbufFree mbuf
                counters := { state.counters with drops := state.counters.drops + 1 } }
            out := [] } := if_pos dropped
      have added : draws.added mbuf = [] := if_neg fun both => by
        rw [dropped] at both
        cases both.1
      have freed : draws.freed mbuf = [mbuf] := if_pos dropped
      rw [same]
      refine ⟨?_, ?_, List.nil_sublist _, id, ?_, ?_⟩
      · have kept : draws.kept mbuf = [] := if_pos dropped
        rw [kept]
      · rw [List.append_nil, List.nil_append]
      · rw [freed]
        rfl
      · rw [added]
        rfl
  | false =>
      have swaps := @process_passed state mbuf draws dropped
      rcases state.corruptHead_kept mbuf draws with ⟨injector, _, drops, dups⟩
      have freed : draws.freed mbuf = [] := if_neg (by rw [dropped]; nofun)
      have ring : ((state.corruptHead mbuf draws).duplicate mbuf draws).state.injector.held =
          state.injector.held := by
        rw [← injector]
        unfold duplicate
        split <;> rfl
      refine ⟨?_, ?_, swaps.emitted, ?_, ?_, ?_⟩
      · have out : draws.kept mbuf = ((state.corruptHead mbuf draws).duplicate mbuf draws).out := by
          unfold FaultDraws.kept duplicate
          rw [dropped]
          cases draws.dup <;> rfl
        rw [out, swaps.conserved, ring]
      · rw [← ring]
        exact swaps.ordered
      · rw [← ring]
        exact swaps.bounded
      · rw [freed, swaps.drops, ← drops]
        unfold duplicate
        split <;> rfl
      · rw [swaps.dups, ← dups]
        unfold FaultDraws.added duplicate
        cases draws.dup <;> simp [dropped]

/-- What a call does to the counts of the buffers. -/
theorem process_counted {others : Multiset ℕ}
    (counted : state.mem.refs.Counted ((mbuf.segs : Multiset ℕ) + others))
    (few : ∀ seg ∈ mbuf.segs, ((mbuf.segs : Multiset ℕ) + others).count seg ≤ 2 ^ 16) :
    (state.process mbuf draws).state.mem.refs.Counted
      (refsOf (draws.kept mbuf : Multiset MbufChain) + others) := by
  cases dropped : draws.drop with
  | true =>
      have refs : (state.process mbuf draws).state.mem.refs = state.mem.refs.freeAll mbuf.segs := by
        unfold process
        rw [if_pos dropped]
        rfl
      have kept : draws.kept mbuf = [] := if_pos dropped
      rw [refs, kept, Multiset.coe_nil, refsOf, Multiset.zero_bind, Multiset.zero_add]
      exact RefCount.Takes.freeAll few _ counted
  | false =>
      have refs : (state.process mbuf draws).state.mem.refs =
          ((state.corruptHead mbuf draws).duplicate mbuf draws).state.mem.refs := by
        rw [(process_passed dropped).mem]
      have uncounted : (state.corruptHead mbuf draws).mem.refs = state.mem.refs :=
        (state.corruptHead_kept mbuf draws).2.1
      rw [refs]
      cases doubled : draws.dup with
      | true =>
          have bumped : ((state.corruptHead mbuf draws).duplicate mbuf draws).state.mem.refs =
              state.mem.refs.applyAll (mbuf.segs.map fun seg => .update seg 1) := by
            unfold duplicate
            rw [if_pos doubled, ← uncounted]
            rfl
          have kept : draws.kept mbuf = [mbuf, mbuf] := by
            unfold FaultDraws.kept
            rw [dropped, doubled]
            rfl
          have twice : refsOf ([mbuf, mbuf] : Multiset MbufChain) + others =
              (mbuf.segs : Multiset ℕ) + others + (mbuf.segs : Multiset ℕ) := by
            have pair : (([mbuf, mbuf] : List MbufChain) : Multiset MbufChain) = {mbuf} + {mbuf} :=
              rfl
            rw [pair, refsOf_add, refsOf_singleton]
            ac_rfl
          rw [bumped, kept, twice]
          refine RefCount.Takes.takeAll (fun seg member => ?_) _ counted
          exact Multiset.mem_add.mpr (.inl member)
      | false =>
          have unbumped : ((state.corruptHead mbuf draws).duplicate mbuf draws).state.mem.refs =
              state.mem.refs := by
            unfold duplicate
            rw [if_neg (by rw [doubled]; nofun)]
            exact uncounted
          have kept : draws.kept mbuf = [mbuf] := by
            unfold FaultDraws.kept
            rw [dropped, doubled]
            rfl
          rw [unbumped, kept, Multiset.coe_singleton, refsOf_singleton]
          exact counted

/-- Exactly one byte differs, inside the buffer at an address. -/
def OneByte (before after : ℕ → List UInt8) (addr : ℕ) : Prop :=
  ∃ (idx : ℕ) (byte : UInt8) (inside : idx < (before addr).length),
    after addr = (before addr).set idx byte ∧ byte ≠ (before addr).get ⟨idx, inside⟩ ∧
      ∀ other, other ≠ addr → after other = before other

/-- The frame is corrupted: it is not dropped, the draw says so, and its head has a byte. -/
def Corrupts (state : FaultState) (mbuf : MbufChain) (draws : FaultDraws) : Prop :=
  draws.drop = false ∧ draws.corrupt = true ∧ 0 < (state.mem.data mbuf.head).length

theorem xor_ne (byte mask : UInt8) : byte ^^^ max mask 1 ≠ byte := by
  intro same
  have unmasked : max mask 1 = 0 := by
    apply (UInt8.xor_right_inj byte).mp
    rw [same, UInt8.xor_zero]
  have masked : (if mask ≤ 1 then 1 else mask) ≠ (0 : UInt8) := by
    split
    · decide
    · rename_i above
      rintro rfl
      exact above (by decide)
  exact masked unmasked

theorem corruptHead_data (filled : 0 < (state.mem.data mbuf.head).length)
    (corrupts : draws.corrupt = true) :
    OneByte state.mem.data (state.corruptHead mbuf draws).mem.data mbuf.head := by
  unfold corruptHead
  rw [if_pos corrupts, dif_pos filled]
  refine ⟨draws.index _ filled, _, (draws.index _ filled).isLt, if_pos rfl, ?_, ?_⟩
  · exact xor_ne _ _
  · exact fun other differs => if_neg differs

/-- A call changes the byte it corrupts, and no other. -/
theorem process_data (state : FaultState) (mbuf : MbufChain) (draws : FaultDraws) :
    (state.Corrupts mbuf draws →
        OneByte state.mem.data (state.process mbuf draws).state.mem.data mbuf.head) ∧
      (¬ state.Corrupts mbuf draws →
        (state.process mbuf draws).state.mem.data = state.mem.data) := by
  have passed : draws.drop = false →
      (state.process mbuf draws).state.mem.data = (state.corruptHead mbuf draws).mem.data := by
    intro passed
    rw [(process_passed passed).mem]
    unfold duplicate
    split <;> rfl
  constructor
  · rintro ⟨undropped, corrupts, filled⟩
    rw [passed undropped]
    exact corruptHead_data filled corrupts
  · intro spared
    cases dropped : draws.drop with
    | true =>
        unfold process
        rw [if_pos dropped]
        rfl
    | false =>
        rw [passed dropped]
        unfold corruptHead
        split
        · rename_i corrupts
          split
          · rename_i filled
            exact absurd ⟨dropped, corrupts, filled⟩ spared
          · rfl
        · rfl

end FaultState

/-! ### Runs -/

/-- An injector with a ledger of the frames: those that came in, the references added to them,
those that went out, those the injector freed, those out and not yet freed behind the decoders,
and those that went into the ring and came out of it. -/
structure FaultRun where
  state : FaultState
  inputs : List MbufChain := []
  dups : List MbufChain := []
  emitted : List MbufChain := []
  freed : List MbufChain := []
  outstanding : List MbufChain := []
  stored : List MbufChain := []
  evicted : List MbufChain := []

/-- A frame reaches the injector, or one that left it is freed. -/
inductive FaultOp where
  | process (mbuf : MbufChain) (frame : ℕ → List UInt8) (draws : FaultDraws)
  | freeEmitted (index : ℕ)

namespace FaultRun

/-- Every buffer is in the pool, with whatever bytes. -/
def start (data : ℕ → List UInt8) : FaultRun :=
  { state :=
      { injector := FaultInjector.new
        mem := ⟨data, RxRefs.full⟩
        counters := ⟨0, 0, 0, 0⟩ } }

/-- The driver hands over a received frame. -/
def received (run : FaultRun) (mbuf : MbufChain) (frame : ℕ → List UInt8) : FaultState :=
  { run.state with mem := run.state.mem.rxAlloc mbuf frame }

/-- One step of the injector, with the books on its frames. -/
def step (run : FaultRun) : FaultOp → FaultRun
  | .process mbuf frame draws =>
      let result := (run.received mbuf frame).process mbuf draws
      { state := result.state
        inputs := run.inputs ++ [mbuf]
        dups := run.dups ++ draws.added mbuf
        emitted := run.emitted ++ result.out
        freed := run.freed ++ draws.freed mbuf
        outstanding := run.outstanding ++ result.out
        stored := run.stored ++ result.stored
        evicted := run.evicted ++ result.evicted }
  | .freeEmitted index =>
      match run.outstanding[index]? with
      | none => run
      | some chain =>
          { run with
            state := { run.state with mem := run.state.mem.pktmbufFree chain }
            outstanding := run.outstanding.eraseIdx index }

/-- The driver hands out buffers of the pool, each of them once. -/
def Admissible (run : FaultRun) : FaultOp → Prop
  | .process mbuf _ _ =>
      mbuf.segs.Nodup ∧ ∀ seg ∈ mbuf.segs, (run.state.mem.refs seg).pooled = true
  | .freeEmitted _ => True

/-- The frames that hold references. -/
def holding (run : FaultRun) : Multiset MbufChain :=
  (run.outstanding : Multiset MbufChain) + run.state.injector.held

/-- What holds of every injector that is reached. -/
structure Conserves (run : FaultRun) : Prop where
  conserved : (run.inputs : Multiset MbufChain) + run.dups =
    run.emitted + run.freed + run.state.injector.held
  drops : run.state.counters.drops = run.freed.length
  dups : run.state.counters.dups = run.dups.length
  bounded : run.state.injector.held.length ≤ REORDER_RING_LEN
  ordered : run.stored = run.evicted ++ run.state.injector.held
  emitted : run.evicted.Sublist run.emitted
  counted : run.state.mem.refs.Counted (refsOf run.holding)
  few : ∀ seg, (refsOf run.holding).count seg ≤ 2

variable {run : FaultRun}

theorem conserves_start (data : ℕ → List UInt8) : (start data).Conserves :=
  ⟨rfl, rfl, rfl, Nat.zero_le _, rfl, List.nil_sublist _, fun _ => rfl, fun _ => Nat.zero_le _⟩

/-- A buffer of the pool is held by no frame. -/
theorem Conserves.unheld (conserves : run.Conserves) {seg : ℕ}
    (pooled : (run.state.mem.refs seg).pooled = true) : seg ∉ refsOf run.holding := by
  rw [conserves.counted seg] at pooled
  exact Multiset.count_eq_zero.mp (of_decide_eq_true pooled)

theorem Conserves.process (conserves : run.Conserves) {mbuf : MbufChain} (once : mbuf.segs.Nodup)
    (pooled : ∀ seg ∈ mbuf.segs, (run.state.mem.refs seg).pooled = true)
    (frame : ℕ → List UInt8) (draws : FaultDraws) :
    (run.step (.process mbuf frame draws)).Conserves := by
  have call := FaultState.processed (run.received mbuf frame) mbuf draws
  have unheld : ∀ seg ∈ mbuf.segs, seg ∉ refsOf run.holding :=
    fun seg member => conserves.unheld (pooled seg member)
  have handed : (run.received mbuf frame).mem.refs.Counted
      ((mbuf.segs : Multiset ℕ) + refsOf run.holding) := by
    rw [Multiset.add_comm]
    exact conserves.counted.allocAll once unheld
  -- what is kept of the frame is counted on top of the frames that held references before
  have holding : (run.step (.process mbuf frame draws)).holding =
      (draws.kept mbuf : Multiset MbufChain) + run.holding := by
    have moved := call.conserved
    unfold FaultRun.holding step
    dsimp only
    rw [← Multiset.coe_add, Multiset.add_assoc, ← moved]
    dsimp only [received]
    ac_rfl
  have single : ∀ seg, (mbuf.segs : Multiset ℕ).count seg ≤ 1 := by
    intro seg
    rw [Multiset.coe_count]
    exact List.nodup_iff_count_le_one.mp once seg
  refine ⟨?_, ?_, ?_, ?_, ?_, ?_, ?_, ?_⟩
  · have moved := call.conserved
    have balance := draws.kept_add_freed mbuf
    have before := conserves.conserved
    unfold step
    dsimp only [received] at moved ⊢
    simp only [← Multiset.coe_add, Multiset.coe_singleton]
    calc (run.inputs : Multiset MbufChain) + {mbuf} + (run.dups + draws.added mbuf)
        _ = (run.inputs + run.dups) + ({mbuf} + draws.added mbuf) := by ac_rfl
        _ = run.emitted + run.freed + run.state.injector.held +
              (draws.kept mbuf + draws.freed mbuf) := by rw [before, balance]
        _ = run.emitted + run.freed + draws.freed mbuf +
              (draws.kept mbuf + run.state.injector.held) := by ac_rfl
        _ = _ := by
          rw [moved]
          ac_rfl
  · unfold step
    dsimp only
    rw [call.drops, List.length_append, ← conserves.drops]
    rfl
  · unfold step
    dsimp only
    rw [call.dups, List.length_append, ← conserves.dups]
    rfl
  · exact call.bounded conserves.bounded
  · have moved := call.ordered
    unfold step
    dsimp only [received] at moved ⊢
    rw [conserves.ordered, List.append_assoc, moved, List.append_assoc]
  · exact conserves.emitted.append call.emitted
  · rw [holding, refsOf_add]
    apply FaultState.process_counted handed
    intro seg member
    rw [Multiset.count_add, Multiset.count_eq_zero_of_notMem (unheld seg member)]
    exact (single seg).trans (by decide)
  · intro seg
    rw [holding, refsOf_add, Multiset.count_add]
    by_cases member : seg ∈ mbuf.segs
    · rw [Multiset.count_eq_zero_of_notMem (unheld seg member)]
      have one := single seg
      have twice : (refsOf (draws.kept mbuf : Multiset MbufChain)).count seg ≤
          2 * (mbuf.segs : Multiset ℕ).count seg := by
        unfold FaultDraws.kept
        cases draws.drop <;> cases draws.dup <;>
          simp [refsOf, Multiset.bind, Multiset.join, Nat.two_mul]
      omega
    · have absent : (refsOf (draws.kept mbuf : Multiset MbufChain)).count seg = 0 := by
        rw [Multiset.count_eq_zero]
        intro held
        rcases Multiset.mem_bind.mp held with ⟨chain, isKept, inside⟩
        have same : chain = mbuf := by
          unfold FaultDraws.kept at isKept
          split at isKept
          · cases isKept
          · split at isKept <;> simpa using isKept
        rw [same] at inside
        exact member inside
      rw [absent, Nat.zero_add]
      exact conserves.few seg

/-- A frame whose references are given back leaves the others counted. -/
theorem counted_pktmbufFree {mem : MbufMemory} {chain : MbufChain} {rest : Multiset MbufChain}
    (counted : mem.refs.Counted (refsOf ({chain} + rest)))
    (few : ∀ seg, (refsOf ({chain} + rest)).count seg ≤ 2) :
    (mem.pktmbufFree chain).refs.Counted (refsOf rest) := by
  rw [refsOf_add, refsOf_singleton] at counted few
  exact RefCount.Takes.freeAll (fun seg _ => (few seg).trans (by decide)) _ counted

theorem Conserves.freeEmitted (conserves : run.Conserves) (index : ℕ) :
    (run.step (.freeEmitted index)).Conserves := by
  unfold step
  dsimp only
  split
  · exact conserves
  · rename_i chain found
    have parts : (run.outstanding : Multiset MbufChain) =
        {chain} + (run.outstanding.eraseIdx index : Multiset MbufChain) := by
      rcases List.getElem?_eq_some_iff.mp found with ⟨inside, here⟩
      rw [Multiset.singleton_add, Multiset.cons_coe, Multiset.coe_eq_coe, ← here]
      exact (List.getElem_cons_eraseIdx_perm inside).symm
    have holding : run.holding = {chain} + ((run.outstanding.eraseIdx index : Multiset MbufChain) +
        run.state.injector.held) := by
      rw [FaultRun.holding, parts, Multiset.add_assoc]
    have counted := conserves.counted
    have few := conserves.few
    rw [holding] at counted few
    refine ⟨conserves.conserved, conserves.drops, conserves.dups, conserves.bounded,
      conserves.ordered, conserves.emitted, counted_pktmbufFree counted few, ?_⟩
    intro seg
    refine Nat.le_trans (Multiset.count_le_of_le seg ?_) (few seg)
    rw [refsOf_add]
    exact Multiset.le_add_left _ _

/-- The teardown gives back what the ring holds, and nothing else. -/
theorem Conserves.teardown (conserves : run.Conserves) :
    run.state.drop.mem.refs.Counted (refsOf (run.outstanding : Multiset MbufChain)) := by
  have freeing : ∀ (held : List MbufChain) (mem : MbufMemory) (rest : Multiset MbufChain),
      mem.refs.Counted (refsOf ((held : Multiset MbufChain) + rest)) →
      (∀ seg, (refsOf ((held : Multiset MbufChain) + rest)).count seg ≤ 2) →
      (held.foldl MbufMemory.pktmbufFree mem).refs.Counted (refsOf rest) := by
    intro held
    induction held with
    | nil =>
        intro mem rest counted _
        rw [Multiset.coe_nil, Multiset.zero_add] at counted
        exact counted
    | cons chain later ih =>
        intro mem rest counted few
        have parts : ((chain :: later : List MbufChain) : Multiset MbufChain) + rest =
            {chain} + ((later : Multiset MbufChain) + rest) := by
          rw [← Multiset.cons_coe, ← Multiset.singleton_add, Multiset.add_assoc]
        rw [parts] at counted few
        refine ih _ rest (counted_pktmbufFree counted few) fun seg => ?_
        refine Nat.le_trans (Multiset.count_le_of_le seg ?_) (few seg)
        rw [refsOf_add {chain}]
        exact Multiset.le_add_left _ _
  have counted := conserves.counted
  have few := conserves.few
  rw [FaultRun.holding, Multiset.add_comm] at counted few
  exact freeing _ _ _ counted few

theorem Conserves.reached {data : ℕ → List UInt8}
    (reached : Run.Reaches step Admissible (start data) run) : run.Conserves := by
  refine reached.invariant (conserves_start data) ?_
  intro run op conserves taken
  cases op with
  | process mbuf frame draws => exact conserves.process taken.1 taken.2 frame draws
  | freeEmitted index => exact conserves.freeEmitted index

/-- After any calls, whatever is drawn: the frames that came in and the duplicates are those that
went out, were freed or are in the ring; the ring has at most 16 frames, which come out of it in
the order they went in; the count of a buffer is the number of references the ring and the
emissions not yet freed have to it; a call alters exactly the byte it corrupts; and the teardown
leaves only the references of the emissions. -/
theorem frames_conserved {data : ℕ → List UInt8} {run : FaultRun}
    (reached : Run.Reaches step Admissible (start data) run) :
    ((run.inputs : Multiset MbufChain) + run.dups =
        run.emitted + run.freed + run.state.injector.held ∧
      run.inputs.length + run.state.counters.dups =
        run.emitted.length + run.state.counters.drops + run.state.injector.held.length) ∧
    run.state.injector.held.length ≤ REORDER_RING_LEN ∧
    (run.stored = run.evicted ++ run.state.injector.held ∧ run.evicted.Sublist run.emitted) ∧
    (∀ seg, (run.state.mem.refs seg).refcnt.toNat = (refsOf run.holding).count seg ∧
      ((run.state.mem.refs seg).pooled = true ↔ seg ∉ refsOf run.holding)) ∧
    (∀ mbuf frame draws,
      ((run.received mbuf frame).Corrupts mbuf draws →
        FaultState.OneByte (run.received mbuf frame).mem.data
          (run.step (.process mbuf frame draws)).state.mem.data mbuf.head) ∧
      (¬ (run.received mbuf frame).Corrupts mbuf draws →
        (run.step (.process mbuf frame draws)).state.mem.data =
          (run.received mbuf frame).mem.data)) ∧
    run.state.drop.injector.held = [] ∧
      ∀ seg, (run.state.drop.mem.refs seg).refcnt.toNat =
        (refsOf (run.outstanding : Multiset MbufChain)).count seg := by
  have conserves := Conserves.reached reached
  have exactly : ∀ {count : ℕ}, count ≤ 2 →
      (RefCount.Ref.counted count : RxRef).refcnt.toNat = count :=
    fun few => RefCount.Ref.counted_exact (Nat.lt_of_le_of_lt few (by decide))
  refine ⟨⟨conserves.conserved, ?_⟩, conserves.bounded, ⟨conserves.ordered, conserves.emitted⟩, ?_,
    ?_, rfl, ?_⟩
  · have sizes := congrArg Multiset.card conserves.conserved
    simp only [Multiset.card_add, Multiset.coe_card] at sizes
    rw [conserves.dups, conserves.drops]
    exact sizes
  · intro seg
    rw [conserves.counted seg]
    refine ⟨exactly (conserves.few seg), ?_⟩
    rw [← Multiset.count_eq_zero]
    exact decide_eq_true_iff
  · intro mbuf frame draws
    exact FaultState.process_data (run.received mbuf frame) mbuf draws
  · intro seg
    rw [conserves.teardown seg]
    apply exactly
    have few := conserves.few seg
    rw [FaultRun.holding, refsOf_add, Multiset.count_add] at few
    exact (Nat.le_add_right _ _).trans few

/-- A chain of two buffers comes in, is corrupted and duplicated, and one reference is held back. -/
def doubledOnce : FaultRun :=
  (start fun _ => []).step
    (.process ⟨5, [6]⟩ (fun _ => [1, 2, 3])
      ⟨false, true, fun _ filled => ⟨0, filled⟩, 0, true, true⟩)

theorem frames_conserved_doubled :
    doubledOnce.state.injector.held.length ≤ REORDER_RING_LEN ∧
      ∀ seg, (doubledOnce.state.mem.refs seg).refcnt.toNat =
        (refsOf doubledOnce.holding).count seg := by
  have reached : Run.Reaches step Admissible (start fun _ => []) doubledOnce :=
    .tail _ .refl ⟨by decide, fun _ _ => rfl⟩
  have conserved := frames_conserved reached
  exact ⟨conserved.2.1, fun seg => (conserved.2.2.2.1 seg).1⟩

end FaultRun

end DpdkTcp
