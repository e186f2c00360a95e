import DpdkTcp.Codec.Encode

/-!
# The option decoder

The loop of `parse_options` goes over one option at a time: what an option
decodes to depends on its own bytes only. What it can return is a set of
options that the encoder can write, and the loop reads the groups of the
encoder back one by one. The straight-line path is a shortcut of the loop.
-/

namespace DpdkTcp

/-! ### Numbers in network order -/

/-- The four bytes of a number, read where they were written. -/
theorem beU32At_append (front rest : List UInt8) (value : BitVec 32) :
    beU32At (front ++ (be32 value ++ rest)) front.length = value := by
  have byte : ∀ off, (front ++ (be32 value ++ rest)).getD (front.length + off) 0 =
      (be32 value ++ rest).getD off 0 := by
    intro off
    simp [List.getD_eq_getElem?_getD, List.getElem?_append_right]
  have small := value.isLt
  unfold beU32At
  rw [← Nat.add_zero front.length, Nat.add_assoc, Nat.add_assoc, Nat.add_assoc, byte, byte, byte,
    byte]
  apply BitVec.eq_of_toNat_eq
  simp only [be32, List.cons_append, List.nil_append, List.getD_cons_zero, List.getD_cons_succ,
    Nat.zero_add, BitVec.toNat_ofNat, UInt8.toNat_ofNat']
  omega

/-- The two bytes of a 16-bit number, at the front of an option's value. -/
theorem beU16At_be16 (kind len : UInt8) (value : UInt16) (rest : List UInt8) :
    beU16At (kind :: len :: (be16 value.toNat ++ rest)) 2 = value := by
  have small := value.toNat_lt
  apply UInt16.toNat.inj
  simp only [beU16At, be16, List.cons_append, List.nil_append, List.getD_cons_zero,
    List.getD_cons_succ, UInt8.toNat_ofNat', UInt16.toNat_ofNat']
  omega

/-! ### One option -/

/-- The bytes of an option that is decoded are passed over. -/
theorem parseOptionsFrom_skip (bytes rest : List UInt8) (opts : TcpOpts) :
    parseOptionsFrom bytes.length (bytes ++ rest) opts = parseOptionsFrom 0 rest opts := by
  induction bytes with
  | nil => rfl
  | cons byte bytes ih => exact ih

/-- An option with a sound length is decoded, and the loop goes on behind it. -/
theorem parseOptionsFrom_option {kind len : UInt8} {value rest : List UInt8}
    {opts decoded : TcpOpts} (notEnd : kind ≠ OPT_END) (notNop : kind ≠ OPT_NOP)
    (length : len.toNat = value.length + 2)
    (reads : decodeOption (kind :: len :: (value ++ rest)) kind len.toNat opts = .ok decoded) :
    parseOptionsFrom 0 (kind :: len :: (value ++ rest)) opts = parseOptionsFrom 0 rest decoded := by
  rw [parseOptionsFrom.eq_def]
  dsimp only
  rw [if_neg notEnd, if_neg notNop, if_neg (by omega), if_neg (by simp [length]), reads]
  dsimp only
  rw [length, show value.length + 2 - 1 = (len :: value).length by simp]
  exact parseOptionsFrom_skip (len :: value) rest decoded

theorem parseOptionsFrom_nop (rest : List UInt8) (opts : TcpOpts) :
    parseOptionsFrom 0 (OPT_NOP :: rest) opts = parseOptionsFrom 0 rest opts := by
  rw [parseOptionsFrom.eq_def]
  exact (if_neg (by decide)).trans (if_pos rfl)

/-! ### The straight-line path -/

/-- The straight-line path returns what the loop returns. -/
theorem parseOptions_eq (bytes : List UInt8) : parseOptions bytes = parseOptionsFrom 0 bytes {} := by
  unfold parseOptions
  split
  · rename_i lone
    rcases lone with ⟨length, kind, len, first, second⟩
    -- the twelve bytes, one by one
    match bytes, length with
    | [k, l, a, b, c, d, e, f, g, h, m, n], _ =>
        simp only [List.getD_cons_zero, List.getD_cons_succ] at kind len first second
        subst kind len first second
        have loop : parseOptionsFrom 0
              (OPT_TIMESTAMP :: 10 :: ([a, b, c, d, e, f, g, h] ++ [OPT_NOP, OPT_NOP])) {} =
            parseOptionsFrom 0 [OPT_NOP, OPT_NOP] _ :=
          parseOptionsFrom_option (by decide) (by decide) rfl rfl
        exact (loop.trans ((parseOptionsFrom_nop _ _).trans (parseOptionsFrom_nop _ _))).symm
  · rfl

/-! ### What the decoder returns -/

/-- A value the encoder can write: a legal shift, no more blocks than slots, unused slots zero. -/
structure TcpOpts.Canonical (opts : TcpOpts) : Prop where
  wscale : ∀ shift ∈ opts.wscale, shift ≤ 14
  few : opts.sackBlockCount ≤ 4
  unused : ∀ (index : ℕ) (slot : index < 4), opts.sackBlockCount ≤ index →
    opts.sackBlocks[index] = ⟨0#32, 0#32⟩

/-- A value the decoder can return: the clamp flag comes with a shift. -/
structure TcpOpts.Decoded (opts : TcpOpts) : Prop extends opts.Canonical where
  clamped : opts.wsClamped = true → opts.wscale.isSome = true

namespace TcpOpts

variable {opts : TcpOpts}

theorem decoded_default : Decoded {} where
  wscale := nofun
  few := by decide
  unused := by
    intro index slot _
    exact Vector.getElem_replicate slot
  clamped := nofun

theorem Decoded.push (decoded : opts.Decoded) (block : SackBlock) :
    (opts.pushSackBlockDecode block).Decoded := by
  unfold pushSackBlockDecode pushSackBlockBelow
  split
  · exact decoded
  · rename_i room
    refine ⟨⟨decoded.wscale, ?_, ?_⟩, decoded.clamped⟩
    · unfold MAX_SACK_BLOCKS_DECODE at room
      dsimp only
      omega
    · intro index slot behind
      dsimp only at behind ⊢
      rw [Vector.getElem_setIfInBounds_ne slot (by omega)]
      exact decoded.unused index slot (by omega)

theorem Decoded.blocks (decoded : opts.Decoded) (option : List UInt8) (count index : ℕ) :
    (decodeSackBlocks option count index opts).Decoded := by
  induction count generalizing index opts with
  | zero => exact decoded
  | succ count ih => exact ih (decoded.push _) _

/-- One option keeps the value in the decoder's range. -/
theorem Decoded.option (decoded : opts.Decoded) {option : List UInt8} {kind : UInt8} {optLen : ℕ}
    {after : TcpOpts} (reads : decodeOption option kind optLen opts = .ok after) :
    after.Decoded := by
  unfold decodeOption at reads
  split at reads
  · split at reads
    · cases reads
    · cases reads
      exact ⟨⟨decoded.wscale, decoded.few, decoded.unused⟩, decoded.clamped⟩
  · split at reads
    · split at reads
      · cases reads
      · split at reads
        · cases reads
          refine ⟨⟨?_, decoded.few, decoded.unused⟩, fun _ => rfl⟩
          rintro _ ⟨⟩
          decide
        · rename_i legal
          cases reads
          refine ⟨⟨?_, decoded.few, decoded.unused⟩, fun _ => rfl⟩
          rintro _ ⟨⟩
          exact UInt8.not_lt.mp legal
    · split at reads
      · split at reads
        · cases reads
        · cases reads
          exact ⟨⟨decoded.wscale, decoded.few, decoded.unused⟩, decoded.clamped⟩
      · split at reads
        · split at reads
          · cases reads
          · cases reads
            exact ⟨⟨decoded.wscale, decoded.few, decoded.unused⟩, decoded.clamped⟩
        · split at reads
          · dsimp only at reads
            split at reads
            · cases reads
            · cases reads
              exact decoded.blocks option _ _
          · cases reads
            exact decoded

theorem Decoded.loop (decoded : opts.Decoded) {skip : ℕ} {bytes : List UInt8} {after : TcpOpts}
    (reads : parseOptionsFrom skip bytes opts = .ok after) : after.Decoded := by
  induction bytes generalizing skip opts with
  | nil =>
      rw [parseOptionsFrom] at reads
      cases reads
      exact decoded
  | cons kind rest ih =>
      cases skip with
      | succ skip => exact ih decoded reads
      | zero =>
          rw [parseOptionsFrom.eq_def] at reads
          dsimp only at reads
          split at reads
          · cases reads
            exact decoded
          · split at reads
            · exact ih decoded reads
            · split at reads
              · cases reads
              · split at reads
                · cases reads
                · split at reads
                  · cases reads
                  · split at reads
                    · cases reads
                    · rename_i next option
                      exact ih (decoded.option option) reads

end TcpOpts

/-- Whatever is decoded lies in the decoder's range. -/
theorem parseOptions_decoded {bytes : List UInt8} {opts : TcpOpts}
    (reads : parseOptions bytes = .ok opts) : opts.Decoded := by
  rw [parseOptions_eq] at reads
  exact TcpOpts.decoded_default.loop reads

/-! ### The groups of the encoder -/

section Groups

variable {opts : TcpOpts} (rest : List UInt8) {before : TcpOpts}

theorem parse_mssGroup (absent : before.mss = none) :
    parseOptionsFrom 0 (opts.mssGroup ++ rest) before =
      parseOptionsFrom 0 rest { before with mss := opts.mss } := by
  unfold TcpOpts.mssGroup
  cases opts.mss with
  | none =>
      have same : { before with mss := none } = before := by rw [← absent]
      rw [same]
      rfl
  | some mss =>
      have value := beU16At_be16 OPT_MSS 4 mss rest
      have option : parseOptionsFrom 0 (OPT_MSS :: 4 :: (be16 mss.toNat ++ rest)) before =
          parseOptionsFrom 0 rest { before with mss := some mss } := by
        refine parseOptionsFrom_option (by decide) (by decide) rfl ?_
        unfold decodeOption
        rw [if_pos rfl, if_neg (by decide), value]
      exact option

theorem parse_wscaleGroup (canonical : opts.Canonical)
    (absent : opts.wscale = none → before.wscale = none) :
    parseOptionsFrom 0 (opts.wscaleGroup ++ rest) before =
      parseOptionsFrom 0 rest { before with wscale := opts.wscale } := by
  have legal := canonical.wscale
  unfold TcpOpts.wscaleGroup
  cases present : opts.wscale with
  | none =>
      have same : { before with wscale := none } = before := by rw [← absent present]
      rw [same]
      rfl
  | some shift =>
      have small : ¬ 14 < shift := UInt8.not_lt.mpr (legal shift present)
      have option : parseOptionsFrom 0 (OPT_WSCALE :: 3 :: ([shift] ++ rest)) before =
          parseOptionsFrom 0 rest { before with wscale := some shift } := by
        refine parseOptionsFrom_option (by decide) (by decide) rfl ?_
        unfold decodeOption
        rw [if_neg (by decide), if_pos rfl, if_neg (by decide)]
        exact if_neg small
      exact (parseOptionsFrom_nop _ _).trans option

theorem parse_sackPermitted :
    parseOptionsFrom 0 (OPT_SACK_PERMITTED :: 2 :: rest) before =
      parseOptionsFrom 0 rest { before with sackPermitted := true } := by
  have option : parseOptionsFrom 0 (OPT_SACK_PERMITTED :: 2 :: ([] ++ rest)) before =
      parseOptionsFrom 0 rest { before with sackPermitted := true } :=
    parseOptionsFrom_option (by decide) (by decide) rfl rfl
  exact option

theorem parse_timestamps (tsval tsecr : BitVec 32) :
    parseOptionsFrom 0 (OPT_TIMESTAMP :: 10 :: (be32 tsval ++ be32 tsecr ++ rest)) before =
      parseOptionsFrom 0 rest { before with timestamps := some (tsval, tsecr) } := by
  have first := beU32At_append [OPT_TIMESTAMP, 10] (be32 tsecr ++ rest) tsval
  have second := beU32At_append ([OPT_TIMESTAMP, 10] ++ be32 tsval) rest tsecr
  simp only [List.cons_append, List.nil_append, List.append_assoc, List.length_cons,
    List.length_nil, length_be32] at first second ⊢
  have option : parseOptionsFrom 0 (OPT_TIMESTAMP :: 10 :: (be32 tsval ++ be32 tsecr ++ rest))
      before = parseOptionsFrom 0 rest { before with timestamps := some (tsval, tsecr) } := by
    refine parseOptionsFrom_option (by decide) (by decide) rfl ?_
    unfold decodeOption
    rw [if_neg (by decide), if_neg (by decide), if_neg (by decide), if_pos rfl, if_neg (by decide),
      List.append_assoc, first, second]
  rw [List.append_assoc] at option
  exact option

theorem parse_timedGroup (disabled : before.sackPermitted = false)
    (absent : before.timestamps = none) :
    parseOptionsFrom 0 (opts.encodeSackPermittedAndTimestamps ++ rest) before =
      parseOptionsFrom 0 rest
        { before with sackPermitted := opts.sackPermitted, timestamps := opts.timestamps } := by
  have untimed : ∀ permitted,
      ({ before with sackPermitted := permitted, timestamps := none } : TcpOpts) =
        { before with sackPermitted := permitted } := by
    intro permitted
    rw [← absent]
  have unpermitted : ∀ stamps,
      ({ before with sackPermitted := false, timestamps := stamps } : TcpOpts) =
        { before with timestamps := stamps } := by
    intro stamps
    rw [← disabled]
  unfold TcpOpts.encodeSackPermittedAndTimestamps
  cases opts.sackPermitted with
  | true =>
      cases opts.timestamps with
      | some stamps =>
          rcases stamps with ⟨tsval, tsecr⟩
          exact (parse_sackPermitted _).trans (parse_timestamps rest tsval tsecr)
      | none =>
          rw [untimed]
          exact (parseOptionsFrom_nop _ _).trans
            ((parseOptionsFrom_nop _ _).trans (parse_sackPermitted rest))
  | false =>
      rw [unpermitted]
      cases opts.timestamps with
      | some stamps =>
          rcases stamps with ⟨tsval, tsecr⟩
          exact (parseOptionsFrom_nop _ _).trans
            ((parseOptionsFrom_nop _ _).trans (parse_timestamps rest tsval tsecr))
      | none =>
          have same : { before with timestamps := none } = before := by rw [← absent]
          rw [same]
          rfl

/-- The blocks of an option are pushed one after the other. -/
theorem decodeSackBlocks_encoded (front : List UInt8) (blocks : List SackBlock)
    (start : TcpOpts) :
    decodeSackBlocks
        (front ++ ((blocks.flatMap fun block => be32 block.left ++ be32 block.right) ++ rest))
        blocks.length front.length start =
      blocks.foldl TcpOpts.pushSackBlockDecode start := by
  induction blocks generalizing front start with
  | nil => rfl
  | cons block blocks ih =>
      have left := beU32At_append front
        (be32 block.right ++
          ((blocks.flatMap fun block => be32 block.left ++ be32 block.right) ++ rest)) block.left
      have right := beU32At_append (front ++ be32 block.left)
        ((blocks.flatMap fun block => be32 block.left ++ be32 block.right) ++ rest) block.right
      have behind := ih (front ++ (be32 block.left ++ be32 block.right))
        (start.pushSackBlockDecode block)
      rw [List.length_append, length_be32] at right
      rw [List.length_append, List.length_append, length_be32, length_be32] at behind
      simp only [List.flatMap_cons, List.append_assoc] at left right behind ⊢
      rw [List.length_cons, decodeSackBlocks, left, right]
      exact behind

theorem exists_slots (blocks : Vector SackBlock 4) :
    ∃ first second third fourth, blocks = #v[first, second, third, fourth] := by
  rcases blocks with ⟨⟨items⟩, size⟩
  match items, size with
  | [first, second, third, fourth], _ => exact ⟨first, second, third, fourth, rfl⟩

/-- Pushed into empty slots, the blocks of a canonical value fill them as they were. -/
theorem push_liveSackBlocks (canonical : opts.Canonical) (none : before.sackBlockCount = 0)
    (empty : before.sackBlocks = Vector.replicate 4 ⟨0#32, 0#32⟩) :
    opts.liveSackBlocks.foldl TcpOpts.pushSackBlockDecode before =
      { before with sackBlocks := opts.sackBlocks, sackBlockCount := opts.sackBlockCount } := by
  have few := canonical.few
  have unused := canonical.unused
  rcases exists_slots opts.sackBlocks with ⟨first, second, third, fourth, slots⟩
  rcases before with ⟨_, _, _, _, blocks, count, _⟩
  dsimp only at none empty
  subst none empty
  rw [TcpOpts.liveSackBlocks]
  simp only [slots] at unused ⊢
  -- one case for each number of blocks; the slots behind them are zero
  have cases : opts.sackBlockCount = 0 ∨ opts.sackBlockCount = 1 ∨ opts.sackBlockCount = 2 ∨
      opts.sackBlockCount = 3 ∨ opts.sackBlockCount = 4 := by omega
  rcases cases with count | count | count | count | count <;> rw [count] at unused ⊢
  · have zeros := And.intro (unused 0 (by decide) (by decide)) (And.intro
      (unused 1 (by decide) (by decide)) (And.intro (unused 2 (by decide) (by decide))
        (unused 3 (by decide) (by decide))))
    rcases zeros with ⟨⟨⟩, ⟨⟩, ⟨⟩, ⟨⟩⟩
    rfl
  · have zeros := And.intro (unused 1 (by decide) (by decide)) (And.intro
      (unused 2 (by decide) (by decide)) (unused 3 (by decide) (by decide)))
    rcases zeros with ⟨⟨⟩, ⟨⟩, ⟨⟩⟩
    rfl
  · have zeros := And.intro (unused 2 (by decide) (by decide)) (unused 3 (by decide) (by decide))
    rcases zeros with ⟨⟨⟩, ⟨⟩⟩
    rfl
  · have zero := unused 3 (by decide) (by decide)
    rcases zero with ⟨⟩
    rfl
  · rfl

theorem parse_sackGroup (canonical : opts.Canonical) (none : before.sackBlockCount = 0)
    (empty : before.sackBlocks = Vector.replicate 4 ⟨0#32, 0#32⟩) :
    parseOptionsFrom 0 (opts.sackGroup ++ rest) before =
      parseOptionsFrom 0 rest
        { before with sackBlocks := opts.sackBlocks, sackBlockCount := opts.sackBlockCount } := by
  have pushed := push_liveSackBlocks canonical none empty
  have few := canonical.few
  have count := opts.length_liveSackBlocks few
  have bytes := TcpOpts.length_encodeBlocks opts.liveSackBlocks
  unfold TcpOpts.sackGroup
  split
  · have optLen : (UInt8.ofNat (2 + 8 * opts.sackBlockCount)).toNat =
        2 + 8 * opts.sackBlockCount := by
      rw [UInt8.toNat_ofNat']
      omega
    have blocks := decodeSackBlocks_encoded rest
      [OPT_SACK, UInt8.ofNat (2 + 8 * opts.sackBlockCount)] opts.liveSackBlocks before
    rw [pushed, count] at blocks
    have option : parseOptionsFrom 0
          (OPT_SACK :: UInt8.ofNat (2 + 8 * opts.sackBlockCount) ::
            ((opts.liveSackBlocks.flatMap fun block => be32 block.left ++ be32 block.right) ++
              rest)) before =
        parseOptionsFrom 0 rest
          { before with sackBlocks := opts.sackBlocks, sackBlockCount := opts.sackBlockCount } := by
      refine parseOptionsFrom_option (by decide) (by decide) (by omega) ?_
      rw [optLen]
      unfold decodeOption
      rw [if_neg (by decide), if_neg (by decide), if_neg (by decide), if_neg (by decide), if_pos rfl]
      dsimp only
      rw [Nat.add_sub_cancel_left, Nat.mul_div_cancel_left _ (by decide)]
      have sound : ¬ (8 * opts.sackBlockCount = 0 ∨ 8 * opts.sackBlockCount % 8 ≠ 0 ∨
          MAX_SACK_BLOCKS_DECODE < opts.sackBlockCount) := by
        unfold MAX_SACK_BLOCKS_DECODE
        omega
      rw [if_neg sound]
      exact congrArg Except.ok blocks
    exact (parseOptionsFrom_nop _ _).trans ((parseOptionsFrom_nop _ _).trans option)
  · have zero : opts.sackBlockCount = 0 := by omega
    have nothing : opts.liveSackBlocks = [] := List.length_eq_zero_iff.mp (count.trans zero)
    rw [nothing] at pushed
    rw [← pushed]
    rfl

/-- The whole encoding of a canonical value, read behind other options that it does not depend
on. -/
theorem parse_encode_from (canonical : opts.Canonical) (mss : before.mss = none)
    (wscale : opts.wscale = none → before.wscale = none)
    (sackPermitted : before.sackPermitted = false) (timestamps : before.timestamps = none)
    (none : before.sackBlockCount = 0)
    (empty : before.sackBlocks = Vector.replicate 4 ⟨0#32, 0#32⟩) :
    parseOptionsFrom 0 opts.encode before = .ok { opts with wsClamped := before.wsClamped } := by
  have groups : opts.encode = opts.mssGroup ++ (opts.wscaleGroup ++
      (opts.encodeSackPermittedAndTimestamps ++ (opts.sackGroup ++ []))) := by
    rw [TcpOpts.encode_eq, List.append_nil, List.append_assoc, List.append_assoc]
  have shift : parseOptionsFrom 0 (opts.wscaleGroup ++
      (opts.encodeSackPermittedAndTimestamps ++ (opts.sackGroup ++ [])))
        { before with mss := opts.mss } = _ :=
    parse_wscaleGroup _ canonical wscale
  have timed : parseOptionsFrom 0
      (opts.encodeSackPermittedAndTimestamps ++ (opts.sackGroup ++ []))
        { before with mss := opts.mss, wscale := opts.wscale } = _ :=
    parse_timedGroup _ sackPermitted timestamps
  rw [groups, parse_mssGroup _ mss, shift, timed]
  exact parse_sackGroup [] canonical none empty

/-- What is encoded is read back. The clamp flag is not encoded. -/
theorem parse_encode (canonical : opts.Canonical) :
    parseOptions opts.encode = .ok { opts with wsClamped := false } := by
  rw [parseOptions_eq]
  exact parse_encode_from canonical rfl (fun _ => rfl) rfl rfl rfl rfl

end Groups

end DpdkTcp
