import DpdkTcp.Codec.Decode
import DpdkTcp.Model.OptionScan

/-!
# The option grammar

The options of a segment are a sequence of NOPs and of options with a kind, a
length and a value, up to an END or the end of the bytes. The grammar is stated on
its own; the decoder accepts the strings it derives and nothing else, and returns
what a reader of the sequence collects: the last occurrence of each option, all SACK
blocks up to four, and whether some shift had to be clamped.
-/

namespace DpdkTcp

/-! ### The grammar -/

/-- What stands in an option string: a NOP, or an option with its value. -/
inductive OptionItem where
  | nop
  | option (kind : UInt8) (value : List UInt8)
deriving DecidableEq, Repr

/-- The length byte that goes with a kind. A kind that is not known may have any. -/
structure LegalLength (kind : UInt8) (length : ℕ) : Prop where
  mss : kind = OPT_MSS → length = 4
  wscale : kind = OPT_WSCALE → length = 3
  sackPermitted : kind = OPT_SACK_PERMITTED → length = 2
  timestamps : kind = OPT_TIMESTAMP → length = 10
  sack : kind = OPT_SACK → ∃ count, 1 ≤ count ∧ count ≤ 4 ∧ length = 2 + 8 * count

/-- The strings of the grammar, with the sequence each stands for. -/
inductive Spells : List UInt8 → List OptionItem → Prop where
  | done : Spells [] []
  | ended (rest : List UInt8) : Spells (OPT_END :: rest) []
  | nop {rest : List UInt8} {items : List OptionItem} (behind : Spells rest items) :
      Spells (OPT_NOP :: rest) (.nop :: items)
  | option {kind length : UInt8} {value rest : List UInt8} {items : List OptionItem}
      (notEnd : kind ≠ OPT_END) (notNop : kind ≠ OPT_NOP)
      (fits : length.toNat = value.length + 2) (legal : LegalLength kind length.toNat)
      (behind : Spells rest items) :
      Spells (kind :: length :: (value ++ rest)) (.option kind value :: items)

/-- A number in network order. -/
def beNat (bytes : List UInt8) : ℕ :=
  bytes.foldl (fun number byte => number * 256 + byte.toNat) 0

/-- The blocks of a SACK option's value. -/
def sackBlocksOf : List UInt8 → List SackBlock
  | a :: b :: c :: d :: e :: f :: g :: h :: rest =>
      ⟨BitVec.ofNat 32 (beNat [a, b, c, d]), BitVec.ofNat 32 (beNat [e, f, g, h])⟩ ::
        sackBlocksOf rest
  | _ => []

namespace OptionItem

/-- What an item says where it is of the given kind. -/
def ofKind {Value : Type} (wanted : UInt8) (read : List UInt8 → Value) : OptionItem → Option Value
  | nop => none
  | option kind value => if kind = wanted then some (read value) else none

/-- The maximum segment size of an item. -/
def mss : OptionItem → Option UInt16 :=
  ofKind OPT_MSS fun value => UInt16.ofNat (beNat value)

/-- The window scale of an item. -/
def shift : OptionItem → Option UInt8 :=
  ofKind OPT_WSCALE fun value => value.getD 0 0

/-- An item that permits SACK. -/
def sackPermitted : OptionItem → Option Unit :=
  ofKind OPT_SACK_PERMITTED fun _ => ()

/-- The two timestamps of an item. -/
def timestamps : OptionItem → Option (BitVec 32 × BitVec 32) :=
  ofKind OPT_TIMESTAMP fun value =>
    (BitVec.ofNat 32 (beNat (value.take 4)), BitVec.ofNat 32 (beNat (value.drop 4)))

/-- The SACK blocks of an item. -/
def sackBlocks (item : OptionItem) : List SackBlock :=
  (item.ofKind OPT_SACK sackBlocksOf).getD []

end OptionItem

/-- A list of at most four blocks in its slots. -/
def blockSlots (blocks : List SackBlock) : Vector SackBlock 4 :=
  Vector.ofFn fun slot => blocks.getD slot.val ⟨0#32, 0#32⟩

/-- What a sequence of items tells: of each option the last one, of the SACK blocks the first four.
A shift above 14 is read as 14, and the flag stays up from the first such shift on. -/
def collected (items : List OptionItem) : TcpOpts :=
  let blocks := (items.flatMap OptionItem.sackBlocks).take 4
  { mss := (items.filterMap OptionItem.mss).getLast?
    wscale := (items.filterMap OptionItem.shift).getLast?.map fun shift =>
      if 14 < shift then 14 else shift
    sackPermitted := (items.filterMap OptionItem.sackPermitted).getLast?.isSome
    timestamps := (items.filterMap OptionItem.timestamps).getLast?
    sackBlocks := blockSlots blocks
    sackBlockCount := blocks.length
    wsClamped := (items.filterMap OptionItem.shift).any fun shift => 14 < shift }

/-! ### One option more -/

/-- What is read so far, and one item behind it. -/
def TcpOpts.read (opts : TcpOpts) : OptionItem → TcpOpts
  | .nop => opts
  | .option kind value =>
      if kind = OPT_MSS then { opts with mss := some (UInt16.ofNat (beNat value)) }
      else if kind = OPT_WSCALE then
        if 14 < value.getD 0 0 then { opts with wscale := some 14, wsClamped := true }
        else { opts with wscale := some (value.getD 0 0) }
      else if kind = OPT_SACK_PERMITTED then { opts with sackPermitted := true }
      else if kind = OPT_TIMESTAMP then
        { opts with
          timestamps := some (BitVec.ofNat 32 (beNat (value.take 4)),
            BitVec.ofNat 32 (beNat (value.drop 4))) }
      else if kind = OPT_SACK then (sackBlocksOf value).foldl TcpOpts.pushSackBlockDecode opts
      else opts

/-- The block loop pushes the blocks of the value. -/
theorem decodeSackBlocks_eq (front value rest : List UInt8) (count : ℕ) (opts : TcpOpts)
    (length : value.length = 8 * count) :
    decodeSackBlocks (front ++ (value ++ rest)) count front.length opts =
      (sackBlocksOf value).foldl TcpOpts.pushSackBlockDecode opts := by
  induction count generalizing front value opts with
  | zero =>
      have empty : value = [] := List.length_eq_zero_iff.mp length
      subst empty
      rfl
  | succ count ih =>
      match value, length with
      | a :: b :: c :: d :: e :: f :: g :: h :: value, length =>
          have shorter : value.length = 8 * count := by
            simp only [List.length_cons] at length
            omega
          have byte : ∀ off, (front ++ (a :: b :: c :: d :: e :: f :: g :: h :: value ++ rest)).getD
                (front.length + off) 0 =
              (a :: b :: c :: d :: e :: f :: g :: h :: value ++ rest).getD off 0 := by
            intro off
            simp [List.getD_eq_getElem?_getD, List.getElem?_append_right]
          have left : beU32At (front ++ (a :: b :: c :: d :: e :: f :: g :: h :: value ++ rest))
              front.length = BitVec.ofNat 32 (beNat [a, b, c, d]) := by
            unfold beU32At
            rw [← Nat.add_zero front.length, Nat.add_assoc, Nat.add_assoc, Nat.add_assoc, byte, byte,
              byte, byte]
            simp [beNat]
          have right : beU32At (front ++ (a :: b :: c :: d :: e :: f :: g :: h :: value ++ rest))
              (front.length + 4) = BitVec.ofNat 32 (beNat [e, f, g, h]) := by
            unfold beU32At
            rw [Nat.add_assoc, Nat.add_assoc, Nat.add_assoc, byte, byte, byte, byte]
            simp [beNat]
          have behind := ih (front ++ [a, b, c, d, e, f, g, h]) value
            (opts.pushSackBlockDecode
              ⟨BitVec.ofNat 32 (beNat [a, b, c, d]), BitVec.ofNat 32 (beNat [e, f, g, h])⟩) shorter
          rw [decodeSackBlocks, left, right]
          simp only [List.append_assoc, List.cons_append, List.nil_append, List.length_append,
            List.length_cons, List.length_nil, Nat.zero_add] at behind
          exact behind

section

variable {kind length : UInt8} {value : List UInt8} (rest : List UInt8) (opts : TcpOpts)

/-- An option of a legal length is read. -/
theorem decodeOption_legal (fits : length.toNat = value.length + 2)
    (legal : LegalLength kind length.toNat) :
    decodeOption (kind :: length :: (value ++ rest)) kind length.toNat opts =
      .ok (opts.read (.option kind value)) := by
  unfold decodeOption TcpOpts.read
  dsimp only
  by_cases mss : kind = OPT_MSS
  · have four := legal.mss mss
    rw [if_pos mss, if_neg (not_not.mpr four), if_pos mss]
    have two : value.length = 2 := Nat.add_right_cancel (fits.symm.trans four)
    rcases List.length_eq_two.mp two with ⟨a, b, rfl⟩
    simp [beU16At, beNat]
  rw [if_neg mss, if_neg mss]
  by_cases wscale : kind = OPT_WSCALE
  · have three := legal.wscale wscale
    rw [if_pos wscale, if_neg (not_not.mpr three), if_pos wscale]
    have one : value.length = 1 := Nat.add_right_cancel (fits.symm.trans three)
    rcases List.length_eq_one_iff.mp one with ⟨shift, rfl⟩
    exact (apply_ite Except.ok (14 < shift) _ _).symm
  rw [if_neg wscale, if_neg wscale]
  by_cases permitted : kind = OPT_SACK_PERMITTED
  · rw [if_pos permitted, if_neg (not_not.mpr (legal.sackPermitted permitted)), if_pos permitted]
  rw [if_neg permitted, if_neg permitted]
  by_cases timestamps : kind = OPT_TIMESTAMP
  · have ten := legal.timestamps timestamps
    rw [if_pos timestamps, if_neg (not_not.mpr ten), if_pos timestamps]
    have eight : value.length = 8 := Nat.add_right_cancel (fits.symm.trans ten)
    rcases value with _ | ⟨a, _ | ⟨b, _ | ⟨c, _ | ⟨d, _ | ⟨e, _ | ⟨f, _ | ⟨g, _ | ⟨h, more⟩⟩⟩⟩⟩⟩⟩⟩
    case cons.cons.cons.cons.cons.cons.cons.cons =>
      have none' : more = [] := List.eq_nil_of_length_eq_zero (by simpa using eight)
      rw [none']
      simp [beU32At, beNat]
    all_goals cases eight
  rw [if_neg timestamps, if_neg timestamps]
  by_cases sack : kind = OPT_SACK
  · rcases legal.sack sack with ⟨count, some, few, counted⟩
    have bytes : length.toNat - 2 = 8 * count := by omega
    rw [if_pos sack, if_pos sack]
    rw [bytes, Nat.mul_div_cancel_left _ (by decide), if_neg]
    · have blocks := decodeSackBlocks_eq [kind, length] value rest count opts (by omega)
      exact congrArg Except.ok blocks
    · unfold MAX_SACK_BLOCKS_DECODE
      omega
  · rw [if_neg sack, if_neg sack]

/-- An option that is read has a legal length. -/
theorem legal_of_decodeOption {option : List UInt8} {opts after : TcpOpts} {length : ℕ}
    (reads : decodeOption option kind length opts = .ok after) : LegalLength kind length := by
  constructor
  · rintro rfl
    by_contra wrong
    rw [decodeOption, if_pos rfl, if_pos wrong] at reads
    cases reads
  · rintro rfl
    by_contra wrong
    rw [decodeOption, if_neg (by decide), if_pos rfl, if_pos wrong] at reads
    cases reads
  · rintro rfl
    by_contra wrong
    rw [decodeOption, if_neg (by decide), if_neg (by decide), if_pos rfl, if_pos wrong] at reads
    cases reads
  · rintro rfl
    by_contra wrong
    rw [decodeOption, if_neg (by decide), if_neg (by decide), if_neg (by decide), if_pos rfl,
      if_pos wrong] at reads
    cases reads
  · rintro rfl
    rw [decodeOption, if_neg (by decide), if_neg (by decide), if_neg (by decide),
      if_neg (by decide), if_pos rfl] at reads
    dsimp only at reads
    split at reads
    · cases reads
    · rename_i counted
      unfold MAX_SACK_BLOCKS_DECODE at counted
      exact ⟨(length - 2) / 8, by omega, by omega, by omega⟩

end

/-! ### The loop and the grammar -/

/-- The loop accepts what the grammar derives, and reads its items in their order. -/
theorem parseOptionsFrom_of_spells {bytes : List UInt8} {items : List OptionItem}
    (spells : Spells bytes items) (opts : TcpOpts) :
    parseOptionsFrom 0 bytes opts = .ok (items.foldl TcpOpts.read opts) := by
  induction spells generalizing opts with
  | done => rfl
  | ended rest =>
      rw [parseOptionsFrom.eq_def]
      exact if_pos rfl
  | nop _ ih => exact (parseOptionsFrom_nop _ _).trans (ih opts)
  | @option _ _ _ rest _ notEnd notNop fits legal _ ih =>
      have reads := decodeOption_legal rest opts fits legal
      exact (parseOptionsFrom_option notEnd notNop fits reads).trans (ih _)

/-- What the loop accepts the grammar derives. -/
theorem spells_of_parseOptionsFrom {bytes : List UInt8} {opts after : TcpOpts}
    (reads : parseOptionsFrom 0 bytes opts = .ok after) : ∃ items, Spells bytes items := by
  -- on the number of bytes, since an option may be of any length
  induction size : bytes.length using Nat.strong_induction_on generalizing bytes opts with
  | _ total ih =>
  cases bytes with
  | nil => exact ⟨[], .done⟩
  | cons kind rest =>
      by_cases ended : kind = OPT_END
      · subst ended
        exact ⟨[], .ended rest⟩
      by_cases nop : kind = OPT_NOP
      · subst nop
        rw [parseOptionsFrom_nop] at reads
        rcases ih rest.length (by rw [← size]; exact Nat.lt_succ_self _) reads rfl with
          ⟨items, spells⟩
        exact ⟨_, spells.nop⟩
      rw [parseOptionsFrom.eq_def] at reads
      dsimp only at reads
      rw [if_neg ended, if_neg nop] at reads
      cases rest with
      | nil => cases reads
      | cons length rest =>
          dsimp only at reads
          by_cases short : length.toNat < 2
          · rw [if_pos short] at reads
            cases reads
          by_cases cut : (kind :: length :: rest).length < length.toNat
          · rw [if_neg short, if_pos cut] at reads
            cases reads
          rw [if_neg short, if_neg cut] at reads
          simp only [List.length_cons] at cut size
          have fits : length.toNat = (rest.take (length.toNat - 2)).length + 2 := by
            rw [List.length_take]
            omega
          have parts : rest = rest.take (length.toNat - 2) ++ rest.drop (length.toNat - 2) :=
            (List.take_append_drop _ _).symm
          have skipped : parseOptionsFrom (length.toNat - 1) (length :: rest) =
              parseOptionsFrom 0 (rest.drop (length.toNat - 2)) := by
            funext opts
            have passed := parseOptionsFrom_skip (length :: rest.take (length.toNat - 2))
              (rest.drop (length.toNat - 2)) opts
            rw [List.length_cons, List.cons_append, ← parts] at passed
            rw [← passed]
            congr 1
            omega
          rw [skipped] at reads
          cases decoded : decodeOption (kind :: length :: rest) kind length.toNat opts with
          | error reason =>
              rw [decoded] at reads
              cases reads
          | ok next =>
              rw [decoded] at reads
              have fewer : (rest.drop (length.toNat - 2)).length < total := by
                rw [List.length_drop]
                omega
              rcases ih _ fewer reads rfl with ⟨items, spells⟩
              refine ⟨.option kind (rest.take (length.toNat - 2)) :: items, ?_⟩
              have item := Spells.option ended nop fits (legal_of_decodeOption decoded) spells
              rw [← parts] at item
              exact item

/-! ### What is read and what is collected -/

theorem pushSackBlockDecode_collected {opts : TcpOpts} {blocks : List SackBlock}
    (slots : opts.sackBlocks = blockSlots (blocks.take 4))
    (count : opts.sackBlockCount = (blocks.take 4).length) (block : SackBlock) :
    opts.pushSackBlockDecode block =
      { opts with
        sackBlocks := blockSlots ((blocks ++ [block]).take 4)
        sackBlockCount := ((blocks ++ [block]).take 4).length } := by
  rw [List.length_take] at count
  unfold TcpOpts.pushSackBlockDecode TcpOpts.pushSackBlockBelow MAX_SACK_BLOCKS_DECODE
  split
  · rename_i full
    have four : 4 ≤ blocks.length := by omega
    rw [List.take_append_of_le_length four, ← slots, List.length_take, ← count]
  · rename_i room
    have few : blocks.length < 4 := by omega
    have all : blocks.take 4 = blocks := List.take_of_length_le (by omega)
    have all' : (blocks ++ [block]).take 4 = blocks ++ [block] :=
      List.take_of_length_le (by rw [List.length_append]; exact few)
    rw [all', List.length_append, slots, all, count]
    congr 1
    · ext1 slot inside
      unfold blockSlots
      rw [Vector.getElem_setIfInBounds, Vector.getElem_ofFn, Vector.getElem_ofFn]
      dsimp only
      rw [List.getD_eq_getElem?_getD, List.getD_eq_getElem?_getD]
      split
      · rename_i here
        rw [List.getElem?_append_right (by omega)]
        simp [← here]
      · rename_i elsewhere
        by_cases old : slot < blocks.length
        · rw [List.getElem?_append_left old]
        · rw [List.getElem?_eq_none (by omega), List.getElem?_eq_none]
          rw [List.length_append, List.length_singleton]
          omega
    · rw [List.length_singleton]
      omega

/-- All blocks of an option, behind those that were there. -/
theorem pushAll_collected (more : List SackBlock) {opts : TcpOpts} {blocks : List SackBlock}
    (slots : opts.sackBlocks = blockSlots (blocks.take 4))
    (count : opts.sackBlockCount = (blocks.take 4).length) :
    more.foldl TcpOpts.pushSackBlockDecode opts =
      { opts with
        sackBlocks := blockSlots ((blocks ++ more).take 4)
        sackBlockCount := ((blocks ++ more).take 4).length } := by
  induction more generalizing opts blocks with
  | nil =>
      rw [List.append_nil, ← slots, ← count]
      rfl
  | cons block more ih =>
      rw [List.foldl_cons, pushSackBlockDecode_collected slots count]
      refine (@ih _ (blocks ++ [block]) rfl rfl).trans ?_
      rw [List.append_assoc]
      rfl

theorem getLast?_filterMap_concat {Value : Type} (pick : OptionItem → Option Value)
    (items : List OptionItem) (item : OptionItem) :
    ((items ++ [item]).filterMap pick).getLast? =
      (pick item).or (items.filterMap pick).getLast? := by
  rw [List.filterMap_append, List.getLast?_append]
  cases here : pick item with
  | none => rw [List.filterMap_cons_none here]; rfl
  | some value => rw [List.filterMap_cons_some here]; rfl

theorem any_filterMap_concat {Value : Type} (pick : OptionItem → Option Value)
    (test : Value → Bool) (items : List OptionItem) (item : OptionItem) :
    ((items ++ [item]).filterMap pick).any test =
      ((items.filterMap pick).any test || (pick item).any test) := by
  rw [List.filterMap_append, List.any_append]
  cases here : pick item with
  | none => rw [List.filterMap_cons_none here]; rfl
  | some value => rw [List.filterMap_cons_some here]; simp

/-- An item of a known kind tells nothing about the other options. -/
theorem OptionItem.ofKind_other {Value : Type} {wanted kind : UInt8} (other : kind ≠ wanted)
    (read : List UInt8 → Value) (value : List UInt8) :
    (OptionItem.option kind value).ofKind wanted read = none :=
  if_neg other

theorem OptionItem.ofKind_same {Value : Type} (kind : UInt8) (read : List UInt8 → Value)
    (value : List UInt8) : (OptionItem.option kind value).ofKind kind read = some (read value) :=
  if_pos rfl

/-- One item more is collected as it is read. -/
theorem collected_concat (items : List OptionItem) (item : OptionItem) :
    collected (items ++ [item]) = (collected items).read item := by
  unfold collected
  rw [getLast?_filterMap_concat, getLast?_filterMap_concat, getLast?_filterMap_concat,
    getLast?_filterMap_concat, any_filterMap_concat, List.flatMap_append, List.flatMap_singleton]
  unfold OptionItem.mss OptionItem.shift OptionItem.sackPermitted OptionItem.timestamps
    OptionItem.sackBlocks
  cases item with
  | nop => simp [OptionItem.ofKind, TcpOpts.read]
  | option kind value =>
      unfold TcpOpts.read
      dsimp only
      by_cases mss : kind = OPT_MSS
      · subst mss
        rw [if_pos rfl]
        simp [OptionItem.ofKind, OPT_MSS, OPT_WSCALE, OPT_SACK_PERMITTED, OPT_TIMESTAMP, OPT_SACK]
      rw [if_neg mss, OptionItem.ofKind_other mss]
      by_cases wscale : kind = OPT_WSCALE
      · subst wscale
        rw [if_pos rfl, OptionItem.ofKind_same,
          OptionItem.ofKind_other (by decide : OPT_WSCALE ≠ OPT_SACK_PERMITTED),
          OptionItem.ofKind_other (by decide : OPT_WSCALE ≠ OPT_TIMESTAMP),
          OptionItem.ofKind_other (by decide : OPT_WSCALE ≠ OPT_SACK)]
        generalize value.getD 0 0 = shift
        by_cases large : 14 < shift
        · simp [large]
        · simp [large]
      rw [if_neg wscale, OptionItem.ofKind_other wscale]
      by_cases permitted : kind = OPT_SACK_PERMITTED
      · subst permitted
        rw [if_pos rfl]
        simp [OptionItem.ofKind, OPT_SACK_PERMITTED, OPT_TIMESTAMP, OPT_SACK]
      rw [if_neg permitted, OptionItem.ofKind_other permitted]
      by_cases timestamps : kind = OPT_TIMESTAMP
      · subst timestamps
        rw [if_pos rfl]
        simp [OptionItem.ofKind, OPT_TIMESTAMP, OPT_SACK]
      rw [if_neg timestamps, OptionItem.ofKind_other timestamps]
      by_cases sack : kind = OPT_SACK
      · subst sack
        rw [if_pos rfl, OptionItem.ofKind_same]
        have pushed := @pushAll_collected (sackBlocksOf value) (collected items)
          (items.flatMap OptionItem.sackBlocks) rfl rfl
        unfold collected OptionItem.mss OptionItem.shift OptionItem.sackPermitted
          OptionItem.timestamps OptionItem.sackBlocks at pushed
        rw [pushed]
        simp
      rw [if_neg sack, OptionItem.ofKind_other sack]
      simp

/-- Reading the items in their order collects them. -/
theorem foldl_read (before items : List OptionItem) :
    items.foldl TcpOpts.read (collected before) = collected (before ++ items) := by
  induction items generalizing before with
  | nil => rw [List.append_nil, List.foldl_nil]
  | cons item items ih =>
      rw [List.foldl_cons, ← collected_concat, ih, List.append_assoc]
      rfl

theorem collected_nil : collected [] = {} := by
  unfold collected blockSlots
  congr 1

/-! ### The loop on its index -/

theorem readU16_of_inside {opts : List UInt8} {i : ℕ} (inside : i + 1 < opts.length) :
    readU16 opts i = some (beU16At opts i) := by
  unfold readU16 beU16At
  rw [List.getElem?_eq_getElem (by omega : i < opts.length), List.getElem?_eq_getElem inside]
  simp [List.getD_eq_getElem?_getD, inside, (by omega : i < opts.length)]

theorem readU32_of_inside {opts : List UInt8} {i : ℕ} (inside : i + 3 < opts.length) :
    readU32 opts i = some (beU32At opts i) := by
  unfold readU32 beU32At
  rw [List.getElem?_eq_getElem (by omega : i < opts.length),
    List.getElem?_eq_getElem (by omega : i + 1 < opts.length),
    List.getElem?_eq_getElem (by omega : i + 2 < opts.length), List.getElem?_eq_getElem inside]
  simp [List.getD_eq_getElem?_getD, inside, (by omega : i < opts.length),
    (by omega : i + 1 < opts.length), (by omega : i + 2 < opts.length)]

theorem beU16At_drop (opts : List UInt8) (i index : ℕ) :
    beU16At (opts.drop i) index = beU16At opts (i + index) := by
  simp [beU16At, List.getD_eq_getElem?_getD, Nat.add_assoc]

theorem beU32At_drop (opts : List UInt8) (i index : ℕ) :
    beU32At (opts.drop i) index = beU32At opts (i + index) := by
  simp [beU32At, List.getD_eq_getElem?_getD, Nat.add_assoc]

theorem scanSackBlocks_eq {opts : List UInt8} {i : ℕ} (count index : ℕ) (out : TcpOpts)
    (inside : i + index + 8 * count ≤ opts.length) :
    scanSackBlocks opts count (i + index) out =
      some (decodeSackBlocks (opts.drop i) count index out) := by
  induction count generalizing index out with
  | zero => rfl
  | succ count ih =>
      unfold scanSackBlocks decodeSackBlocks
      rw [readU32_of_inside (by omega), readU32_of_inside (by omega), beU32At_drop, beU32At_drop]
      exact ih (index + 8) _ (by omega)

/-- The reads of an option that fits are inside the slice. -/
theorem scanKind_eq {opts : List UInt8} {i olen : ℕ} (kind : UInt8) (out : TcpOpts)
    (inside : i + olen ≤ opts.length) :
    scanKind opts i kind olen out = some (decodeOption (opts.drop i) kind olen out) := by
  unfold scanKind decodeOption
  split
  · split
    · rfl
    · rw [readU16_of_inside (by omega), beU16At_drop]
      rfl
  split
  · split
    · rfl
    · rw [List.getElem?_eq_getElem (by omega : i + 2 < opts.length)]
      simp [List.getD_eq_getElem?_getD, (by omega : i + 2 < opts.length)]
  split
  · split <;> rfl
  split
  · split
    · rfl
    · rw [readU32_of_inside (by omega), readU32_of_inside (by omega), beU32At_drop, beU32At_drop]
      rfl
  split
  · dsimp only
    split
    · rfl
    · rw [scanSackBlocks_eq _ 2 _ (by omega)]
      rfl
  · rfl

/-- The bytes of an option that is decoded are passed over, wherever it starts. -/
theorem parseOptionsFrom_drop {skip : ℕ} {bytes : List UInt8} (inside : skip ≤ bytes.length)
    (opts : TcpOpts) : parseOptionsFrom skip bytes opts = parseOptionsFrom 0 (bytes.drop skip) opts := by
  have passed := parseOptionsFrom_skip (bytes.take skip) (bytes.drop skip) opts
  rw [List.length_take, Nat.min_eq_left inside, List.take_append_drop] at passed
  exact passed

/-- The loop on its index reads inside the slice only, and is the loop on the rest of the bytes. -/
theorem scanOptionsFrom_eq (opts : List UInt8) (i : ℕ) (out : TcpOpts) :
    scanOptionsFrom opts i out = some (parseOptionsFrom 0 (opts.drop i) out) := by
  induction left : opts.length - i using Nat.strong_induction_on generalizing i out with
  | _ left ih =>
  rw [scanOptionsFrom.eq_def]
  by_cases inside : i < opts.length
  · have first : opts.drop i = opts[i] :: opts.drop (i + 1) := List.drop_eq_getElem_cons inside
    rw [dif_pos inside, List.getElem?_eq_getElem inside]
    dsimp only
    rw [first, parseOptionsFrom.eq_def]
    dsimp only
    by_cases ended : opts[i] = OPT_END
    · rw [if_pos ended, if_pos ended]
    by_cases nop : opts[i] = OPT_NOP
    · rw [if_neg ended, if_pos nop, if_neg ended, if_pos nop]
      exact ih _ (by omega) (i + 1) out rfl
    rw [if_neg ended, if_neg nop, if_neg ended, if_neg nop]
    by_cases cut : opts.length ≤ i + 1
    · rw [if_pos cut, List.drop_eq_nil_of_le cut]
    have next : i + 1 < opts.length := Nat.lt_of_not_le cut
    have second : opts.drop (i + 1) = opts[i + 1] :: opts.drop (i + 1 + 1) :=
      List.drop_eq_getElem_cons next
    rw [if_neg cut, List.getElem?_eq_getElem next, ← first, second]
    dsimp only
    generalize olenEq : opts[i + 1].toNat = olen
    by_cases short : olen < 2
    · rw [dif_pos short, if_pos short]
    rw [dif_neg short, if_neg short]
    by_cases long : opts.length < i + olen
    · rw [if_pos long, if_pos]
      rw [List.length_drop]
      omega
    have fits : i + olen ≤ opts.length := Nat.le_of_not_lt long
    rw [if_neg long, if_neg (by rw [List.length_drop]; omega), scanKind_eq _ _ fits]
    cases decodeOption (opts.drop i) opts[i] olen out with
    | error reason => rfl
    | ok decoded =>
        have inside' : olen - 1 ≤ (opts.drop (i + 1)).length := by
          rw [List.length_drop]
          omega
        have passed := parseOptionsFrom_drop inside' decoded
        have behind : i + 1 + (olen - 1) = i + olen := by omega
        rw [List.drop_drop, behind] at passed
        dsimp only
        rw [ih _ (by omega) (i + olen) decoded rfl, ← second, passed]
  · rw [dif_neg inside, List.drop_eq_nil_of_le (Nat.le_of_not_lt inside)]
    rfl

/-- No read of `parse_options` is out of bounds. -/
theorem scanOptions_eq (opts : List UInt8) : scanOptions opts = some (parseOptions opts) := by
  unfold scanOptions parseOptions
  by_cases length : opts.length = 12
  · rw [readU32_of_inside (by omega), readU32_of_inside (by omega), scanOptionsFrom_eq,
      List.drop_zero]
    simp [List.getD_eq_getElem?_getD, length]
    split <;> rfl
  · rw [if_neg fun lone => length lone.1, if_neg fun lone => length lone.1, scanOptionsFrom_eq,
      List.drop_zero]

/-- `parse_options` returns on every string, without a read out of bounds; the straight-line path
returns what the loop returns; and a string is accepted if and only if the grammar derives it, with
what its items tell. -/
theorem parse_options_grammar (bytes : List UInt8) :
    scanOptions bytes = some (parseOptions bytes) ∧
      scanOptions bytes = scanOptionsFrom bytes 0 {} ∧
      ∀ opts, parseOptions bytes = .ok opts ↔ ∃ items, Spells bytes items ∧ opts = collected items := by
  refine ⟨scanOptions_eq bytes, ?_, fun opts => ?_⟩
  · rw [scanOptions_eq, scanOptionsFrom_eq, parseOptions_eq, List.drop_zero]
  · rw [parseOptions_eq]
    constructor
    · intro reads
      rcases spells_of_parseOptionsFrom reads with ⟨items, spells⟩
      refine ⟨items, spells, ?_⟩
      have read := parseOptionsFrom_of_spells spells {}
      rw [reads, ← collected_nil, foldl_read] at read
      exact Except.ok.inj read
    · rintro ⟨items, spells, rfl⟩
      rw [parseOptionsFrom_of_spells spells, ← collected_nil, foldl_read]
      rfl

/-- The clamp flag is not that of the last shift, and a shift of 15 is read as 14. -/
theorem clamped_shift_not_last :
    ¬ ∀ bytes items opts, Spells bytes items → parseOptions bytes = .ok opts →
      opts.wscale = (items.filterMap OptionItem.shift).getLast? ∧
        opts.wsClamped = ((items.filterMap OptionItem.shift).getLast?.any fun shift => 14 < shift) := by
  intro last
  have spelled : Spells [OPT_WSCALE, 3, 15, OPT_WSCALE, 3, 7]
      [.option OPT_WSCALE [15], .option OPT_WSCALE [7]] := by
    have legal : LegalLength OPT_WSCALE (3 : UInt8).toNat :=
      ⟨by decide, fun _ => rfl, by decide, by decide, fun sack => absurd sack (by decide)⟩
    have second : Spells [OPT_WSCALE, 3, 7] [.option OPT_WSCALE [7]] :=
      @Spells.option OPT_WSCALE 3 [7] [] [] (by decide) (by decide) rfl legal .done
    exact @Spells.option OPT_WSCALE 3 [15] _ _ (by decide) (by decide) rfl legal second
  have flag := (last _ _ _ spelled rfl).2
  exact absurd flag (by decide)

end DpdkTcp
