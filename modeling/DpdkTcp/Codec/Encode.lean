import DpdkTcp.Model.Engine

/-!
# The option encoder

`encode` writes one group after the other behind a cursor. In a buffer with
room for `encoded_len` bytes it leaves the canonical bytes at the front and
what lies behind them as it was. Every group fills whole words.
-/

namespace DpdkTcp

@[simp]
theorem length_be16 (value : ℕ) : (be16 value).length = 2 :=
  rfl

@[simp]
theorem length_be32 (value : BitVec 32) : (be32 value).length = 4 :=
  rfl

/-! ### The cursor -/

namespace OptsCursor

/-- The buffer was written from the front up to the index, and is untouched from there on. -/
structure Holds (cursor : OptsCursor) (buffer written : List UInt8) : Prop where
  i : cursor.i = written.length
  fits : written.length ≤ buffer.length
  out : cursor.out = written ++ buffer.drop written.length

variable {cursor : OptsCursor} {buffer written : List UInt8}

theorem holds_start (buffer : List UInt8) : Holds { out := buffer, i := 0 } buffer [] :=
  ⟨rfl, Nat.zero_le _, rfl⟩

/-- Bytes are added behind what is written. -/
theorem Holds.put (holds : cursor.Holds buffer written) {bytes : List UInt8}
    (room : written.length + bytes.length ≤ buffer.length) :
    (cursor.put bytes).Holds buffer (written ++ bytes) := by
  have long : (written ++ buffer.drop written.length).length = buffer.length := by
    have fits := holds.fits
    rw [List.length_append, List.length_drop]
    omega
  refine ⟨?_, ?_, ?_⟩
  · rw [OptsCursor.put, holds.i, List.length_append]
  · rw [List.length_append]
    exact room
  · dsimp only [OptsCursor.put, overwrite]
    rw [holds.i, holds.out, List.take_left, List.drop_append, List.drop_drop,
      List.drop_of_length_le (Nat.le_add_right _ _), List.nil_append, List.length_append,
      Nat.add_sub_cancel_left]

/-- One write for each block. -/
theorem Holds.putBlocks (blocks : List SackBlock) (holds : cursor.Holds buffer written)
    (room : written.length + 8 * blocks.length ≤ buffer.length) :
    (blocks.foldl (fun cursor block => cursor.put (be32 block.left ++ be32 block.right))
        cursor).Holds buffer
      (written ++ blocks.flatMap fun block => be32 block.left ++ be32 block.right) := by
  induction blocks generalizing cursor written with
  | nil =>
      rw [List.flatMap_nil, List.append_nil]
      exact holds
  | cons block rest ih =>
      rw [List.length_cons] at room
      have eight : (be32 block.left ++ be32 block.right).length = 8 := rfl
      have first := holds.put (by rw [eight]; omega)
      rw [List.flatMap_cons, ← List.append_assoc]
      refine ih first ?_
      rw [List.length_append, eight]
      omega

end OptsCursor

/-! ### The bytes -/

namespace TcpOpts

variable (opts : TcpOpts)

/-- The number of blocks never exceeds the array. -/
theorem length_liveSackBlocks (few : opts.sackBlockCount ≤ 4) :
    opts.liveSackBlocks.length = opts.sackBlockCount := by
  rw [liveSackBlocks, List.length_take, Vector.length_toList]
  omega

theorem length_encodeBlocks (blocks : List SackBlock) :
    (blocks.flatMap fun block => be32 block.left ++ be32 block.right).length =
      8 * blocks.length := by
  induction blocks with
  | nil => rfl
  | cons block rest ih =>
      rw [List.flatMap_cons, List.length_append, ih, List.length_cons]
      simp only [List.length_append, length_be32]
      omega

/-- The bytes of each step of `encode`. -/
def mssGroup : List UInt8 :=
  match opts.mss with
  | some mss => [OPT_MSS, 4] ++ be16 mss.toNat
  | none => []

/-- The window scale as it is written, with its padding. -/
def wscaleGroup : List UInt8 :=
  match opts.wscale with
  | some shift => [OPT_NOP, OPT_WSCALE, 3, shift]
  | none => []

/-- The SACK blocks as they are written, with their padding. -/
def sackGroup : List UInt8 :=
  if 0 < opts.sackBlockCount then
    [OPT_NOP, OPT_NOP, OPT_SACK, UInt8.ofNat (2 + 8 * opts.sackBlockCount)] ++
      opts.liveSackBlocks.flatMap fun block => be32 block.left ++ be32 block.right
  else []

theorem encode_eq :
    opts.encode = opts.mssGroup ++ opts.wscaleGroup ++ opts.encodeSackPermittedAndTimestamps ++
      opts.sackGroup :=
  rfl

theorem length_mssGroup : opts.mssGroup.length = if opts.mss.isSome then 4 else 0 := by
  unfold mssGroup
  cases opts.mss <;> rfl

theorem length_wscaleGroup :
    opts.wscaleGroup.length = if opts.wscale.isSome then 1 + 3 else 0 := by
  unfold wscaleGroup
  cases opts.wscale <;> rfl

theorem length_timedGroup :
    opts.encodeSackPermittedAndTimestamps.length =
      match opts.sackPermitted, opts.timestamps.isSome with
      | true, true => 2 + 10
      | true, false => 2 + 2
      | false, true => 2 + 10
      | false, false => 0 := by
  unfold encodeSackPermittedAndTimestamps
  cases opts.sackPermitted <;> cases opts.timestamps <;> rfl

theorem length_sackGroup (few : opts.sackBlockCount ≤ 4) :
    opts.sackGroup.length =
      if 0 < opts.sackBlockCount then 2 + 2 + 8 * opts.sackBlockCount else 0 := by
  unfold sackGroup
  split
  · rw [List.length_append, length_encodeBlocks, opts.length_liveSackBlocks few]
    rfl
  · rfl

/-- `encoded_len` is the number of bytes. -/
theorem length_encode (few : opts.sackBlockCount ≤ 4) : opts.encode.length = opts.encodedLen := by
  rw [encode_eq, List.length_append, List.length_append, List.length_append, length_mssGroup,
    length_wscaleGroup, length_timedGroup, length_sackGroup opts few]
  rfl

/-- Every group fills whole words. -/
theorem encodedLen_mod_four : opts.encodedLen % 4 = 0 := by
  have blocks : (if 0 < opts.sackBlockCount then 2 + 2 + 8 * opts.sackBlockCount else 0) % 4 = 0 := by
    split <;> omega
  unfold encodedLen
  cases opts.mss <;> cases opts.wscale <;> cases opts.sackPermitted <;> cases opts.timestamps <;>
    simp [Nat.add_mod, blocks]

end TcpOpts

/-! ### The encoder -/

section Steps

variable (opts : TcpOpts) {cursor : OptsCursor} {buffer written : List UInt8}

theorem OptsCursor.Holds.putMss (holds : cursor.Holds buffer written)
    (room : written.length + opts.mssGroup.length ≤ buffer.length) :
    (opts.putMss cursor).Holds buffer (written ++ opts.mssGroup) := by
  revert room
  unfold TcpOpts.putMss TcpOpts.mssGroup
  cases opts.mss with
  | none =>
      rw [List.append_nil]
      exact fun _ => holds
  | some mss => exact holds.put

theorem OptsCursor.Holds.putWscale (holds : cursor.Holds buffer written)
    (room : written.length + opts.wscaleGroup.length ≤ buffer.length) :
    (opts.putWscale cursor).Holds buffer (written ++ opts.wscaleGroup) := by
  revert room
  unfold TcpOpts.putWscale TcpOpts.wscaleGroup
  cases opts.wscale with
  | none =>
      rw [List.append_nil]
      exact fun _ => holds
  | some shift => exact holds.put

theorem OptsCursor.Holds.putTimed (holds : cursor.Holds buffer written)
    (room : written.length + opts.encodeSackPermittedAndTimestamps.length ≤ buffer.length) :
    (opts.putSackPermittedAndTimestamps cursor).Holds buffer
      (written ++ opts.encodeSackPermittedAndTimestamps) := by
  -- with timestamps there are two writes, one behind the other
  have twice : ∀ first second : List UInt8,
      written.length + (first ++ second).length ≤ buffer.length →
      ((cursor.put first).put second).Holds buffer (written ++ (first ++ second)) := by
    intro first second room
    rw [List.length_append] at room
    rw [← List.append_assoc]
    refine (holds.put (by omega)).put ?_
    rw [List.length_append]
    omega
  revert room
  unfold TcpOpts.putSackPermittedAndTimestamps TcpOpts.encodeSackPermittedAndTimestamps
  cases opts.sackPermitted with
  | false =>
      cases opts.timestamps with
      | none =>
          rw [List.append_nil]
          exact fun _ => holds
      | some stamps =>
          exact twice [OPT_NOP, OPT_NOP] ([OPT_TIMESTAMP, 10] ++ be32 stamps.1 ++ be32 stamps.2)
  | true =>
      cases opts.timestamps with
      | none => exact holds.put
      | some stamps =>
          exact twice [OPT_SACK_PERMITTED, 2]
            ([OPT_TIMESTAMP, 10] ++ be32 stamps.1 ++ be32 stamps.2)

theorem OptsCursor.Holds.putSackBlocks (holds : cursor.Holds buffer written)
    (room : written.length + opts.sackGroup.length ≤ buffer.length) :
    (opts.putSackBlocks cursor).Holds buffer (written ++ opts.sackGroup) := by
  revert room
  unfold TcpOpts.putSackBlocks TcpOpts.sackGroup
  split
  · intro room
    rw [List.length_append, TcpOpts.length_encodeBlocks] at room
    rw [← List.append_assoc]
    refine (holds.put (by omega)).putBlocks opts.liveSackBlocks ?_
    rw [List.length_append]
    omega
  · intro _
    rw [List.append_nil]
    exact holds

end Steps

/-- `encode` fails in a short buffer, and writes the canonical bytes to the front of any other. -/
theorem TcpOpts.encodeInto_eq (opts : TcpOpts) (few : opts.sackBlockCount ≤ 4)
    (out : List UInt8) :
    opts.encodeInto out =
      if out.length < opts.encodedLen then none
      else some (opts.encode ++ out.drop opts.encodedLen, opts.encodedLen) := by
  unfold encodeInto
  split
  · rfl
  · rename_i enough
    have total := opts.length_encode few
    have room : opts.encode.length ≤ out.length := by omega
    have sizes := room
    rw [encode_eq, List.length_append, List.length_append, List.length_append] at sizes
    have mss : (opts.putMss { out := out, i := 0 }).Holds out ([] ++ opts.mssGroup) :=
      (OptsCursor.holds_start out).putMss opts (by rw [List.length_nil]; omega)
    rw [List.nil_append] at mss
    have wscale := mss.putWscale opts (by omega)
    have timed := wscale.putTimed opts (by rw [List.length_append]; omega)
    have sacked := timed.putSackBlocks opts
      (by rw [List.length_append, List.length_append]; omega)
    rw [← encode_eq] at sacked
    dsimp only
    rw [sacked.out, sacked.i, total]

end DpdkTcp
