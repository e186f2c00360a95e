import DpdkTcp.Codec.Decode

/-!
# Round trips of the option codec

Encoding and then decoding gives a canonical value back. Decoding and then
encoding leads to the canonical form, which decodes to the same value but for
the clamp flag. Whatever options the engine sends, they fit in a TCP header.
-/

namespace DpdkTcp

/-! ### The options the engine sends -/

/-- The options of a segment behind the handshake: timestamps and at most three SACK blocks. -/
structure TcpOpts.Bare (opts : TcpOpts) : Prop where
  mss : opts.mss = none
  wscale : opts.wscale = none
  sackPermitted : opts.sackPermitted = false
  few : opts.sackBlockCount ≤ MAX_SACK_BLOCKS_EMIT

namespace TcpOpts

variable {opts : TcpOpts}

theorem Bare.push (bare : opts.Bare) (block : SackBlock) : (opts.pushSackBlock block).Bare := by
  unfold pushSackBlock pushSackBlockBelow
  split
  · exact bare
  · rename_i room
    exact ⟨bare.mss, bare.wscale, bare.sackPermitted, Nat.lt_of_not_le room⟩

theorem Bare.pushRemaining (bare : opts.Bare) (trigger cap : ℕ)
    (ranges : List ((Seq × Seq) × ℕ)) : (pushRemaining trigger cap ranges opts).1.Bare := by
  induction ranges generalizing cap opts with
  | nil => exact bare
  | cons range rest ih =>
      unfold DpdkTcp.pushRemaining
      split
      · exact ih bare cap
      · cases cap with
        | zero => exact bare
        | succ cap => exact ih (bare.push _) cap

theorem Bare.pushAll (bare : opts.Bare) (ranges : List (Seq × Seq)) :
    (ranges.foldl (fun opts range => opts.pushSackBlock ⟨range.1, range.2⟩) opts).Bare := by
  induction ranges generalizing opts with
  | nil => exact bare
  | cons range rest ih => exact ih (bare.push _)

theorem Bare.length_encode_le (bare : opts.Bare) : opts.encode.length ≤ 40 := by
  have few := bare.few
  unfold MAX_SACK_BLOCKS_EMIT at few
  have blocks : (if 0 < opts.sackBlockCount then 2 + 2 + 8 * opts.sackBlockCount else 0) ≤ 28 := by
    split <;> omega
  rw [opts.length_encode (by omega), encodedLen, bare.mss, bare.wscale, bare.sackPermitted]
  generalize (if 0 < opts.sackBlockCount then 2 + 2 + 8 * opts.sackBlockCount else 0) = size
    at blocks ⊢
  cases opts.timestamps <;> simp <;> omega

end TcpOpts

theorem TcpConn.bare_txOptions (conn : TcpConn) (nowNs : ℕ) : (conn.txOptions nowNs).Bare :=
  ⟨rfl, rfl, rfl, Nat.zero_le _⟩

theorem TcpConn.bare_ackOutcome (conn : TcpConn) (nowNs : ℕ) : (conn.ackOutcome nowNs).opts.Bare := by
  have start : (conn.txOptions nowNs).Bare := conn.bare_txOptions nowNs
  dsimp only [TcpConn.ackOutcome, buildAckOutcome]
  split
  · split
    · exact (start.push _).pushRemaining _ _ _
    · exact start.pushAll _
  · exact start

/-- The SYN, and the SYN-ACK with the same options. -/
theorem Engine.length_encode_synOpts (engine : Engine) (conn : TcpConn) (nowNs : ℕ) :
    (engine.synOpts conn nowNs).encode.length ≤ 40 := by
  rw [TcpOpts.length_encode _ (Nat.zero_le _)]
  dsimp only [Engine.synOpts, buildConnectSynOpts, TcpOpts.encodedLen]
  cases engine.cfg.tcpSack <;> cases engine.cfg.tcpTimestamps <;> simp

/-! ### Encode, then decode -/

/-- A canonical value is written to the front of any buffer that is long enough and read back from
there; a shorter buffer is refused. The options of every segment fit in 40 bytes. -/
theorem options_encode_then_decode {opts : TcpOpts} (canonical : opts.Canonical)
    (unclamped : opts.wsClamped = false) :
    opts.encodedLen % 4 = 0 ∧
      (∀ out : List UInt8, out.length < opts.encodedLen → opts.encodeInto out = none) ∧
      (∀ out : List UInt8, opts.encodedLen ≤ out.length →
        ∃ written, written.length = opts.encodedLen ∧
          opts.encodeInto out = some (written ++ out.drop opts.encodedLen, opts.encodedLen) ∧
          parseOptions written = .ok opts) ∧
      ∀ (engine : Engine) (conn : TcpConn) (nowNs : ℕ),
        (engine.synOpts conn nowNs).encode.length ≤ 40 ∧
          (conn.txOptions nowNs).encode.length ≤ 40 ∧
          (conn.ackOutcome nowNs).opts.encode.length ≤ 40 := by
  refine ⟨opts.encodedLen_mod_four, ?_, ?_, ?_⟩
  · intro out short
    rw [opts.encodeInto_eq canonical.few, if_pos short]
  · intro out enough
    refine ⟨opts.encode, opts.length_encode canonical.few, ?_, ?_⟩
    · rw [opts.encodeInto_eq canonical.few, if_neg (Nat.not_lt.mpr enough)]
    · have same : { opts with wsClamped := false } = opts := by rw [← unclamped]
      rw [parse_encode canonical, same]
  · intro engine conn nowNs
    exact ⟨engine.length_encode_synOpts conn nowNs,
      (conn.bare_txOptions nowNs).length_encode_le, (conn.bare_ackOutcome nowNs).length_encode_le⟩

/-- Every option at once, and one block. -/
def fullOpts : TcpOpts :=
  { mss := some 1460
    wscale := some 7
    sackPermitted := true
    timestamps := some (1#32, 2#32)
    sackBlocks := #v[⟨3#32, 4#32⟩, ⟨0#32, 0#32⟩, ⟨0#32, 0#32⟩, ⟨0#32, 0#32⟩]
    sackBlockCount := 1 }

theorem fullOpts_canonical : fullOpts.Canonical where
  wscale := by
    intro shift present
    cases present
    decide
  few := by decide
  unused := by decide

theorem options_encode_then_decode_full :
    ∃ written, written.length = fullOpts.encodedLen ∧
      fullOpts.encodeInto (List.replicate 40 7) =
        some (written ++ (List.replicate 40 7).drop fullOpts.encodedLen, fullOpts.encodedLen) ∧
      parseOptions written = .ok fullOpts :=
  (options_encode_then_decode fullOpts_canonical rfl).2.2.1 (List.replicate 40 7) (by decide)

/-! ### Decode, then encode -/

/-- Every value in the decoder's range is returned for some bytes. -/
theorem TcpOpts.Decoded.exists_bytes {opts : TcpOpts} (decoded : opts.Decoded) :
    ∃ bytes, parseOptions bytes = .ok opts := by
  cases clamped : opts.wsClamped with
  | false =>
      refine ⟨opts.encode, ?_⟩
      have same : { opts with wsClamped := false } = opts := by rw [← clamped]
      rw [parse_encode decoded.toCanonical, same]
  | true =>
      -- a shift that is clamped, ahead of the canonical bytes with the legal one
      refine ⟨OPT_WSCALE :: 3 :: ([15] ++ opts.encode), ?_⟩
      have present := decoded.clamped clamped
      have legal : parseOptionsFrom 0 opts.encode { wscale := some 14, wsClamped := true } =
          .ok { opts with wsClamped := true } :=
        parse_encode_from decoded.toCanonical rfl (fun absent => by rw [absent] at present; cases present)
          rfl rfl rfl rfl
      have same : { opts with wsClamped := true } = opts := by rw [← clamped]
      rw [parseOptions_eq, parseOptionsFrom_option (by decide) (by decide) rfl rfl]
      exact legal.trans (congrArg Except.ok same)

/-- Whatever bytes are accepted, the value encodes, and its bytes are read as the same value
without the clamp flag. The values that can come out are the canonical ones, the clamp flag being
up only where a shift was read. -/
theorem options_decode_then_encode :
    (∀ (bytes : List UInt8) (opts : TcpOpts), parseOptions bytes = .ok opts →
        ∀ out : List UInt8, opts.encodedLen ≤ out.length →
          ∃ written, opts.encodeInto out =
              some (written ++ out.drop opts.encodedLen, opts.encodedLen) ∧
            written.length = opts.encodedLen ∧
            parseOptions written = .ok { opts with wsClamped := false }) ∧
      ∀ opts : TcpOpts, (∃ bytes, parseOptions bytes = .ok opts) ↔
        opts.Canonical ∧ (opts.wsClamped = true → opts.wscale.isSome = true) := by
  constructor
  · intro bytes opts reads out enough
    have decoded := parseOptions_decoded reads
    refine ⟨opts.encode, ?_, opts.length_encode decoded.few, parse_encode decoded.toCanonical⟩
    rw [opts.encodeInto_eq decoded.few, if_neg (Nat.not_lt.mpr enough)]
  · intro opts
    constructor
    · rintro ⟨bytes, reads⟩
      have decoded := parseOptions_decoded reads
      exact ⟨decoded.toCanonical, decoded.clamped⟩
    · rintro ⟨canonical, clamped⟩
      exact TcpOpts.Decoded.exists_bytes ⟨canonical, clamped⟩

/-- The clamp flag alone is canonical, but no bytes are read so. -/
theorem clamped_without_shift_not_decoded :
    ¬ ∀ opts : TcpOpts, (∃ bytes, parseOptions bytes = .ok opts) ↔ opts.Canonical := by
  intro exactly
  have canonical : ({ wsClamped := true } : TcpOpts).Canonical :=
    ⟨nofun, by decide, by decide⟩
  rcases (exactly { wsClamped := true }).mpr canonical with ⟨bytes, reads⟩
  exact absurd ((parseOptions_decoded reads).clamped rfl) (by decide)

end DpdkTcp
