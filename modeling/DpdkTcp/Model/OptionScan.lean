import DpdkTcp.Model.Wire

/-!
# The option loop on its index

`parse_options` as it goes over the slice: an index into the options and a read at
each place it looks at. A read past the end of the slice gives `none`, which is
where the source would abort.
-/

namespace DpdkTcp

/-- `u16::from_be_bytes([opts[i], opts[i + 1]])`. -/
def readU16 (opts : List UInt8) (i : ℕ) : Option UInt16 := do
  let high ← opts[i]?
  let low ← opts[i + 1]?
  return UInt16.ofNat (high.toNat * 256 + low.toNat)

/-- `u32::from_be_bytes` of the four bytes from `opts[i]` on. -/
def readU32 (opts : List UInt8) (i : ℕ) : Option (BitVec 32) := do
  let first ← opts[i]?
  let second ← opts[i + 1]?
  let third ← opts[i + 2]?
  let fourth ← opts[i + 3]?
  return BitVec.ofNat 32
    (((first.toNat * 256 + second.toNat) * 256 + third.toNat) * 256 + fourth.toNat)

/-- The loop over the blocks of a SACK option; `bi` is the index of the next block. -/
def scanSackBlocks (opts : List UInt8) : (count bi : ℕ) → TcpOpts → Option TcpOpts
  | 0, _, out => some out
  | count + 1, bi, out => do
      let left ← readU32 opts bi
      let right ← readU32 opts (bi + 4)
      scanSackBlocks opts count (bi + 8) (out.pushSackBlockDecode ⟨left, right⟩)

/-- The `match kind` of the loop, for the option at index `i`. -/
def scanKind (opts : List UInt8) (i : ℕ) (kind : UInt8) (olen : ℕ) (out : TcpOpts) :
    Option (Except OptionParseError TcpOpts) :=
  if kind = OPT_MSS then
    if olen ≠ 4 then some (.error .badKnownLen)
    else (readU16 opts (i + 2)).map fun mss => .ok { out with mss := some mss }
  else if kind = OPT_WSCALE then
    if olen ≠ 3 then some (.error .badKnownLen)
    else
      opts[i + 2]?.map fun shift =>
        if 14 < shift then .ok { out with wscale := some 14, wsClamped := true }
        else .ok { out with wscale := some shift }
  else if kind = OPT_SACK_PERMITTED then
    if olen ≠ 2 then some (.error .badKnownLen)
    else some (.ok { out with sackPermitted := true })
  else if kind = OPT_TIMESTAMP then
    if olen ≠ 10 then some (.error .badKnownLen)
    else do
      let tsval ← readU32 opts (i + 2)
      let tsecr ← readU32 opts (i + 6)
      return .ok { out with timestamps := some (tsval, tsecr) }
  else if kind = OPT_SACK then
    let blockBytes := olen - 2
    if blockBytes = 0 ∨ blockBytes % 8 ≠ 0 ∨ MAX_SACK_BLOCKS_DECODE < blockBytes / 8 then
      some (.error .badSackBlockCount)
    else (scanSackBlocks opts (blockBytes / 8) (i + 2) out).map .ok
  else some (.ok out)

/-- The `while` loop of `parse_options`, from index `i` on. -/
def scanOptionsFrom (opts : List UInt8) (i : ℕ) (out : TcpOpts) :
    Option (Except OptionParseError TcpOpts) :=
  if inside : i < opts.length then
    match opts[i]? with
    | none => none
    | some kind =>
        if kind = OPT_END then some (.ok out)
        else if kind = OPT_NOP then scanOptionsFrom opts (i + 1) out
        else if opts.length ≤ i + 1 then some (.error .truncated)
        else
          match opts[i + 1]? with
          | none => none
          | some lenByte =>
              if short : lenByte.toNat < 2 then some (.error .shortUnknown)
              else if opts.length < i + lenByte.toNat then some (.error .truncated)
              else
                match scanKind opts i kind lenByte.toNat out with
                | none => none
                | some (.error reason) => some (.error reason)
                | some (.ok next) => scanOptionsFrom opts (i + lenByte.toNat) next
  else some (.ok out)
termination_by opts.length - i

/-- `parse_options`, with the straight-line path for a lone timestamps option. -/
def scanOptions (opts : List UInt8) : Option (Except OptionParseError TcpOpts) :=
  if opts.length = 12 ∧ opts[0]? = some OPT_TIMESTAMP ∧ opts[1]? = some 10 ∧
      opts[10]? = some OPT_NOP ∧ opts[11]? = some OPT_NOP then do
    let tsval ← readU32 opts 2
    let tsecr ← readU32 opts 6
    return .ok { timestamps := some (tsval, tsecr) }
  else scanOptionsFrom opts 0 {}

end DpdkTcp
