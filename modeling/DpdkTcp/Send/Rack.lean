import Mathlib.Data.Prod.Lex
import Mathlib.Order.Bounds.Basic
import Mathlib.Order.MinMax
import DpdkTcp.Model.Input

/-!
# The newest acknowledged transmission

`update_on_ack` keeps the later of two transmissions, and of two at the same time the one
with the higher end. While the ends that meet at one time are less than half the number
space apart, this is the maximum of a lexicographic order: the loop that feeds it may go
over the queue in any order and as often as it likes, and it never goes back.
-/

namespace DpdkTcp

namespace RackState

/-- A transmission by its time, and then by how far its end lies ahead of a base. -/
def key (base : Seq) (xmitTsNs : ℕ) (endSeq : Seq) : ℕ ×ₗ ℕ :=
  toLex (xmitTsNs, Serial.offset base endSeq)

/-- What RACK orders the delivered segments by. -/
def rackKey (base : Seq) (rack : RackState) : ℕ ×ₗ ℕ :=
  key base rack.xmitTsNs rack.endSeq

/-- `update_on_ack` for one transmission after the other. -/
def updateAll (rack : RackState) (pairs : List (ℕ × Seq)) : RackState :=
  pairs.foldl (fun rack pair => rack.updateOnAck pair.1 pair.2) rack

/-- The ends of the pairs lie in a span below half the number space from `base` on, and that of
the state too where it was transmitted at the same time as one of them. -/
structure InSpan (base : Seq) (rack : RackState) (pairs : List (ℕ × Seq)) : Prop where
  near : ∀ pair ∈ pairs, Serial.offset base pair.2 < 2 ^ 31
  tie : ∀ pair ∈ pairs, pair.1 = rack.xmitTsNs → Serial.offset base rack.endSeq < 2 ^ 31

variable {base : Seq} {rack : RackState} {pair : ℕ × Seq} {pairs others : List (ℕ × Seq)}

theorem offset_injective {left right : Seq}
    (same : Serial.offset base left = Serial.offset base right) : left = right := by
  rw [← Serial.point_offset base left, same, Serial.point_offset]

theorem key_lt_iff {xmitTsNs xmitTsNs' : ℕ} {endSeq endSeq' : Seq} :
    key base xmitTsNs endSeq < key base xmitTsNs' endSeq' ↔
      xmitTsNs < xmitTsNs' ∨
        xmitTsNs = xmitTsNs' ∧ Serial.offset base endSeq < Serial.offset base endSeq' :=
  Prod.Lex.toLex_lt_toLex

/-- The state after one update is the old one or that of the pair, whichever is greater. -/
theorem updateOnAck_eq (tie : pair.1 = rack.xmitTsNs → Serial.offset base rack.endSeq < 2 ^ 31)
    (inSpan : Serial.offset base pair.2 < 2 ^ 31) :
    rack.updateOnAck pair.1 pair.2 =
      if rackKey base rack < key base pair.1 pair.2 then
        { rack with xmitTsNs := pair.1, endSeq := pair.2 }
      else rack := by
  have newer : (rack.xmitTsNs < pair.1 ∨
      (pair.1 = rack.xmitTsNs ∧ seqLt rack.endSeq pair.2 = true)) ↔
        rackKey base rack < key base pair.1 pair.2 := by
    unfold rackKey
    rw [key_lt_iff]
    by_cases same : pair.1 = rack.xmitTsNs
    · rw [seqLt_offset base (tie same) inSpan, decide_eq_true_iff]
      omega
    · omega
  unfold updateOnAck
  by_cases ahead : rackKey base rack < key base pair.1 pair.2
  · rw [if_pos (newer.mpr ahead), if_pos ahead]
  · rw [if_neg fun other => ahead (newer.mp other), if_neg ahead]

/-- One update leads to the maximum and keeps the rest of the pairs comparable. -/
theorem InSpan.update (span : InSpan base rack (pair :: pairs)) :
    InSpan base (rack.updateOnAck pair.1 pair.2) pairs ∧
      rackKey base (rack.updateOnAck pair.1 pair.2) =
        max (rackKey base rack) (key base pair.1 pair.2) := by
  have inSpan := span.near pair List.mem_cons_self
  rw [updateOnAck_eq (span.tie pair List.mem_cons_self) inSpan]
  split
  · rename_i ahead
    refine ⟨⟨fun other member => span.near other (.tail _ member), fun _ _ _ => inSpan⟩, ?_⟩
    rw [max_eq_right (le_of_lt ahead)]
    rfl
  · rename_i behind
    refine ⟨⟨fun other member => span.near other (.tail _ member),
      fun other member => span.tie other (.tail _ member)⟩, ?_⟩
    rw [max_eq_left (not_lt.mp behind)]

/-- The keys of the state and of the pairs. -/
def keys (base : Seq) (rack : RackState) (pairs : List (ℕ × Seq)) : Set (ℕ ×ₗ ℕ) :=
  insert (rackKey base rack) {found | ∃ pair ∈ pairs, found = key base pair.1 pair.2}

/-- After all updates the state has the greatest of the keys. -/
theorem InSpan.isGreatest (span : InSpan base rack pairs) :
    IsGreatest (keys base rack pairs) (rackKey base (rack.updateAll pairs)) := by
  induction pairs generalizing rack with
  | nil =>
      refine ⟨Set.mem_insert _ _, ?_⟩
      rintro found (rfl | ⟨_, member, _⟩)
      · exact le_refl _
      · cases member
  | cons pair pairs ih =>
      rcases span.update with ⟨span', updated⟩
      rcases ih span' with ⟨member, greatest⟩
      have first : rackKey base (rack.updateOnAck pair.1 pair.2) ≤
          rackKey base (rack.updateAll (pair :: pairs)) := greatest (Set.mem_insert _ _)
      rw [updated] at first
      constructor
      · rcases member with old | ⟨other, member, same⟩
        · rw [updated] at old
          rcases max_choice (rackKey base rack) (key base pair.1 pair.2) with kept | taken
          · exact .inl (old.trans kept)
          · exact .inr ⟨pair, List.mem_cons_self, old.trans taken⟩
        · exact .inr ⟨other, .tail _ member, same⟩
      · rintro found (rfl | ⟨other, member, rfl⟩)
        · exact le_trans (le_max_left _ _) first
        · rcases List.mem_cons.mp member with rfl | later
          · exact le_trans (le_max_right _ _) first
          · exact greatest (.inr ⟨other, later, rfl⟩)

theorem updateOnAck_rest (rack : RackState) (xmitTsNs : ℕ) (endSeq : Seq) :
    (rack.updateOnAck xmitTsNs endSeq).reoWndUs = rack.reoWndUs ∧
      (rack.updateOnAck xmitTsNs endSeq).minRttUs = rack.minRttUs ∧
      (rack.updateOnAck xmitTsNs endSeq).dsackSeen = rack.dsackSeen := by
  unfold updateOnAck
  split
  · exact ⟨rfl, rfl, rfl⟩
  · exact ⟨rfl, rfl, rfl⟩

/-- An update changes the newest transmission only. -/
theorem updateAll_fields (rack : RackState) (pairs : List (ℕ × Seq)) :
    rack.updateAll pairs =
      { rack with
        xmitTsNs := (rack.updateAll pairs).xmitTsNs
        endSeq := (rack.updateAll pairs).endSeq } := by
  have rest : ∀ (pairs : List (ℕ × Seq)) (rack : RackState),
      (rack.updateAll pairs).reoWndUs = rack.reoWndUs ∧
        (rack.updateAll pairs).minRttUs = rack.minRttUs ∧
        (rack.updateAll pairs).dsackSeen = rack.dsackSeen := by
    intro pairs
    induction pairs with
    | nil => exact fun _ => ⟨rfl, rfl, rfl⟩
    | cons pair pairs ih =>
        intro rack
        rcases rack.updateOnAck_rest pair.1 pair.2 with ⟨reoWnd, minRtt, dsack⟩
        rcases ih (rack.updateOnAck pair.1 pair.2) with ⟨reoWnd', minRtt', dsack'⟩
        exact ⟨reoWnd'.trans reoWnd, minRtt'.trans minRtt, dsack'.trans dsack⟩
  have kept := rest pairs rack
  generalize rack.updateAll pairs = updated at kept ⊢
  rcases updated with ⟨xmitTsNs, endSeq, reoWndUs, minRttUs, dsackSeen⟩
  rcases kept with ⟨rfl, rfl, rfl⟩
  rfl

/-- States with the same key are the same but for what an update leaves alone. -/
theorem updateAll_eq_of_key
    (same : rackKey base (rack.updateAll pairs) = rackKey base (rack.updateAll others)) :
    rack.updateAll pairs = rack.updateAll others := by
  have parts := toLex.injective same
  rw [updateAll_fields rack pairs, updateAll_fields rack others, (Prod.mk.inj parts).1,
    offset_injective (Prod.mk.inj parts).2]

theorem updateAll_append (rack : RackState) (pairs later : List (ℕ × Seq)) :
    rack.updateAll (pairs ++ later) = (rack.updateAll pairs).updateAll later :=
  List.foldl_append ..

/-- What remains is comparable after any number of updates. -/
theorem InSpan.later {later : List (ℕ × Seq)} (span : InSpan base rack (pairs ++ later)) :
    InSpan base (rack.updateAll pairs) later := by
  induction pairs generalizing rack with
  | nil => exact span
  | cons pair pairs ih => exact ih span.update.1

/-- The state depends on which pairs there are, not on their order or number. -/
theorem InSpan.any_order (span : InSpan base rack pairs)
    (same : ∀ pair, pair ∈ others ↔ pair ∈ pairs) : rack.updateAll others = rack.updateAll pairs := by
  have span' : InSpan base rack others :=
    ⟨fun pair member => span.near pair ((same pair).mp member),
      fun pair member => span.tie pair ((same pair).mp member)⟩
  have sets : keys base rack others = keys base rack pairs := by
    unfold keys
    simp only [same]
  have greatest := span'.isGreatest
  rw [sets] at greatest
  exact updateAll_eq_of_key (greatest.unique span.isGreatest)

/-- Applied in any order and with any repetitions, updates by the same pairs lead to the same state,
which has the greatest key; and no update lowers the key. -/
theorem update_on_ack_any_order (span : InSpan base rack pairs) :
    (∀ others : List (ℕ × Seq), (∀ pair, pair ∈ others ↔ pair ∈ pairs) →
      rack.updateAll others = rack.updateAll pairs) ∧
    IsGreatest (keys base rack pairs) (rackKey base (rack.updateAll pairs)) ∧
    ∀ earlier later : List (ℕ × Seq), earlier ++ later = pairs →
      rackKey base (rack.updateAll earlier) ≤ rackKey base (rack.updateAll pairs) := by
  refine ⟨fun others same => span.any_order same, span.isGreatest, ?_⟩
  rintro earlier later rfl
  have greatest := span.later.isGreatest
  rw [updateAll_append]
  exact greatest.2 (Set.mem_insert _ _)

/-- Two transmissions at one time, in either order. -/
theorem update_on_ack_any_order_pair :
    RackState.new.updateAll [(5, 20#32), (5, 10#32), (5, 20#32)] =
      RackState.new.updateAll [(5, 10#32), (5, 20#32)] := by
  have span : InSpan 0#32 RackState.new [(5, 10#32), (5, 20#32)] :=
    ⟨by decide, by decide⟩
  exact (update_on_ack_any_order span).1 _ fun pair => by
    simp only [List.mem_cons, List.not_mem_nil, or_false]
    tauto

/-- Ends two apart, but half the number space ahead of that of the state: the order counts. -/
theorem order_counts_out_of_span :
    ¬ ∀ (base : Seq) (rack : RackState) (pairs others : List (ℕ × Seq)),
      (∀ pair ∈ pairs, Serial.offset base pair.2 < 2 ^ 31) →
      (∀ pair, pair ∈ others ↔ pair ∈ pairs) → rack.updateAll others = rack.updateAll pairs := by
  intro anyOrder
  have same := anyOrder 0x7FFFFFFF#32 RackState.new [(0, 0x7FFFFFFF#32), (0, 0x80000001#32)]
    [(0, 0x80000001#32), (0, 0x7FFFFFFF#32)] (by decide) fun pair => by
      simp only [List.mem_cons, List.not_mem_nil, or_false]
      exact or_comm
  exact absurd same (by decide)

/-! ### The loop over the transmissions -/

/-- The transmissions that an acknowledgment covers. -/
def covered (sndUna : Seq) (entries : List RetransEntry) : List (ℕ × Seq) :=
  (entries.filter fun entry => entry.sacked || seqLe entry.endSeq sndUna).map fun entry =>
    (entry.xmitTsNs, entry.endSeq)

theorem rackUpdate_eq (sndUna : Seq) (entries : List RetransEntry) (rack : RackState) :
    rackUpdate sndUna entries rack = rack.updateAll (covered sndUna entries) := by
  unfold rackUpdate covered
  induction entries generalizing rack with
  | nil => rfl
  | cons entry entries ih =>
      rw [List.foldl_cons, ih, List.filter_cons]
      split <;> rfl

/-- The order of the queue does not matter to the loop. -/
theorem rackUpdate_perm {sndUna : Seq} {entries reordered : List RetransEntry}
    (span : InSpan base rack (covered sndUna entries)) (perm : reordered.Perm entries) :
    rackUpdate sndUna reordered rack = rackUpdate sndUna entries rack := by
  rw [rackUpdate_eq, rackUpdate_eq]
  exact span.any_order fun _ => ((perm.filter _).map _).mem_iff

end RackState

end DpdkTcp
