import DpdkTcp.Model.Seq

/-!
# Segments and options

The connection states, the TCP flags, the decoded segment handed to the
per-state handlers, and the option decoder of `tcp_options.rs`.
-/

namespace DpdkTcp

/-- `TcpState`: the eleven states of the connection state machine. -/
inductive TcpState where
  | closed
  | listen
  | synSent
  | synReceived
  | established
  | finWait1
  | finWait2
  | closeWait
  | closing
  | lastAck
  | timeWait
deriving DecidableEq, Repr

/-- The flags byte of a TCP header. -/
abbrev Flags := BitVec 8

/-- The sender has no more data. -/
def TCP_FIN : Flags := 0x01#8

/-- Sequence numbers are to be synchronized. -/
def TCP_SYN : Flags := 0x02#8

/-- The connection is reset. -/
def TCP_RST : Flags := 0x04#8

/-- The receiver is to hand over the data at once. -/
def TCP_PSH : Flags := 0x08#8

/-- The acknowledgment field is in use. -/
def TCP_ACK : Flags := 0x10#8

/-- The urgent pointer is in use. -/
def TCP_URG : Flags := 0x20#8

/-- The test `flags & mask != 0`. -/
def Flags.has (flags mask : Flags) : Bool :=
  (flags &&& mask) != 0#8

/-- `usize as u16`. -/
def asU16 (value : ℕ) : ℕ :=
  value % 65536

@[simp]
theorem asU16_of_lt {value : ℕ} (small : value < 65536) : asU16 value = value :=
  Nat.mod_eq_of_lt small

/-- `u32::saturating_add` and `u32::saturating_mul` stop here. -/
def U32_MAX : ℕ := 4294967295

/-- The greatest value of the clock and of a deadline. -/
def U64_MAX : ℕ := 18446744073709551615

/-- `(now_ns / 1_000) as u32`: a nanosecond clock reading in wrapping microseconds. -/
def asMicros (nanos : ℕ) : BitVec 32 :=
  BitVec.ofNat 32 (nanos / 1000)

/-- A single SACK block, in host byte order. -/
structure SackBlock where
  left : Seq
  right : Seq
deriving DecidableEq, Repr, Inhabited

/-- How many SACK blocks a segment of ours carries. -/
def MAX_SACK_BLOCKS_EMIT : ℕ := 3

/-- How many SACK blocks are read from a segment. -/
def MAX_SACK_BLOCKS_DECODE : ℕ := 4

/-- `TcpOpts`: decoded (or to be encoded) TCP options. -/
structure TcpOpts where
  mss : Option UInt16 := none
  wscale : Option UInt8 := none
  sackPermitted : Bool := false
  timestamps : Option (BitVec 32 × BitVec 32) := none
  sackBlocks : Vector SackBlock 4 := Vector.replicate 4 ⟨0#32, 0#32⟩
  sackBlockCount : ℕ := 0
  wsClamped : Bool := false
deriving DecidableEq, Repr

namespace TcpOpts

/-- The live prefix `sack_blocks[..sack_block_count]`. -/
def liveSackBlocks (opts : TcpOpts) : List SackBlock :=
  opts.sackBlocks.toList.take opts.sackBlockCount

/-- `push_sack_block` and `push_sack_block_decode` differ in their cap only. -/
def pushSackBlockBelow (cap : ℕ) (opts : TcpOpts) (block : SackBlock) : TcpOpts :=
  if cap ≤ opts.sackBlockCount then opts
  else
    { opts with
      sackBlocks := opts.sackBlocks.setIfInBounds opts.sackBlockCount block
      sackBlockCount := opts.sackBlockCount + 1 }

/-- A block to send, if there is room. -/
def pushSackBlock : TcpOpts → SackBlock → TcpOpts :=
  pushSackBlockBelow MAX_SACK_BLOCKS_EMIT

/-- A block that was read, if there is room. -/
def pushSackBlockDecode : TcpOpts → SackBlock → TcpOpts :=
  pushSackBlockBelow MAX_SACK_BLOCKS_DECODE

/-- `encoded_len`: the byte length of the canonical encoding. -/
def encodedLen (opts : TcpOpts) : ℕ :=
  (if opts.mss.isSome then 4 else 0) +
    (if opts.wscale.isSome then 1 + 3 else 0) +
    (match opts.sackPermitted, opts.timestamps.isSome with
      | true, true => 2 + 10
      | true, false => 2 + 2
      | false, true => 2 + 10
      | false, false => 0) +
    (if 0 < opts.sackBlockCount then 2 + 2 + 8 * opts.sackBlockCount else 0)

end TcpOpts

/-- Why `parse_options` refuses. -/
inductive OptionParseError where
  | shortUnknown
  | badKnownLen
  | truncated
  | badSackBlockCount
deriving DecidableEq, Repr

/-- The option that ends the list. -/
def OPT_END : UInt8 := 0

/-- The option that pads. -/
def OPT_NOP : UInt8 := 1

/-- The kind of the maximum segment size. -/
def OPT_MSS : UInt8 := 2

/-- The kind of the window scale. -/
def OPT_WSCALE : UInt8 := 3

/-- The kind that permits SACK. -/
def OPT_SACK_PERMITTED : UInt8 := 4

/-- The kind of the SACK blocks. -/
def OPT_SACK : UInt8 := 5

/-- The kind of the timestamps. -/
def OPT_TIMESTAMP : UInt8 := 8

/-- `u16::from_be_bytes` of the two bytes at an index; a byte past the end reads as zero. -/
def beU16At (bytes : List UInt8) (index : ℕ) : UInt16 :=
  UInt16.ofNat ((bytes.getD index 0).toNat * 256 + (bytes.getD (index + 1) 0).toNat)

/-- `u32::from_be_bytes` of the four bytes at an index. -/
def beU32At (bytes : List UInt8) (index : ℕ) : BitVec 32 :=
  BitVec.ofNat 32
    ((((bytes.getD index 0).toNat * 256 + (bytes.getD (index + 1) 0).toNat) * 256 +
      (bytes.getD (index + 2) 0).toNat) * 256 + (bytes.getD (index + 3) 0).toNat)

/-- The SACK blocks of an option value, eight bytes a block. -/
def decodeSackBlocks (option : List UInt8) : ℕ → ℕ → TcpOpts → TcpOpts
  | 0, _, opts => opts
  | count + 1, index, opts =>
      decodeSackBlocks option count (index + 8)
        (opts.pushSackBlockDecode ⟨beU32At option index, beU32At option (index + 4)⟩)

/-- The `match kind` of the option loop: `option` starts at the kind byte. -/
def decodeOption (option : List UInt8) (kind : UInt8) (optLen : ℕ) (opts : TcpOpts) :
    Except OptionParseError TcpOpts :=
  if kind = OPT_MSS then
    if optLen ≠ 4 then .error .badKnownLen
    else .ok { opts with mss := some (beU16At option 2) }
  else if kind = OPT_WSCALE then
    if optLen ≠ 3 then .error .badKnownLen
    else if 14 < option.getD 2 0 then .ok { opts with wscale := some 14, wsClamped := true }
    else .ok { opts with wscale := some (option.getD 2 0) }
  else if kind = OPT_SACK_PERMITTED then
    if optLen ≠ 2 then .error .badKnownLen
    else .ok { opts with sackPermitted := true }
  else if kind = OPT_TIMESTAMP then
    if optLen ≠ 10 then .error .badKnownLen
    else .ok { opts with timestamps := some (beU32At option 2, beU32At option 6) }
  else if kind = OPT_SACK then
    let blockBytes := optLen - 2
    if blockBytes = 0 ∨ blockBytes % 8 ≠ 0 ∨ MAX_SACK_BLOCKS_DECODE < blockBytes / 8 then
      .error .badSackBlockCount
    else .ok (decodeSackBlocks option (blockBytes / 8) 2 opts)
  else .ok opts

/-- The general option loop. The index `i` of the source is a suffix of the
options here, and `skip` counts the bytes of the current option still to be
passed over, so that `i += olen` is structural. -/
def parseOptionsFrom : (skip : ℕ) → List UInt8 → TcpOpts → Except OptionParseError TcpOpts
  | _, [], opts => .ok opts
  | skip + 1, _ :: rest, opts => parseOptionsFrom skip rest opts
  | 0, kind :: rest, opts =>
      if kind = OPT_END then .ok opts
      else if kind = OPT_NOP then parseOptionsFrom 0 rest opts
      else
        match rest with
        | [] => .error .truncated
        | lenByte :: _ =>
            if lenByte.toNat < 2 then .error .shortUnknown
            else if (kind :: rest).length < lenByte.toNat then .error .truncated
            else
              match decodeOption (kind :: rest) kind lenByte.toNat opts with
              | .error reason => .error reason
              | .ok decoded => parseOptionsFrom (lenByte.toNat - 1) rest decoded

/-- `parse_options`, with its straight-line path for a lone timestamps option. -/
def parseOptions (opts : List UInt8) : Except OptionParseError TcpOpts :=
  if opts.length = 12 ∧ opts.getD 0 0 = OPT_TIMESTAMP ∧ opts.getD 1 0 = 10 ∧
      opts.getD 10 0 = OPT_NOP ∧ opts.getD 11 0 = OPT_NOP then
    .ok { timestamps := some (beU32At opts 2, beU32At opts 6) }
  else parseOptionsFrom 0 opts {}

/-- `ParsedSegment`: a decoded TCP segment. -/
structure ParsedSegment where
  srcPort : UInt16
  dstPort : UInt16
  seq : Seq
  ack : Seq
  flags : Flags
  window : UInt16
  headerLen : ℕ
  payload : List UInt8
  options : List UInt8
deriving DecidableEq, Repr

namespace ParsedSegment

/-- Whether the FIN flag is set. -/
def fin (seg : ParsedSegment) : Bool :=
  seg.flags.has TCP_FIN

/-- `seg_len`: the payload length, and one more when FIN is set. -/
def segLen (seg : ParsedSegment) : ℕ :=
  seg.payload.length + seg.fin.toNat

end ParsedSegment

/-- `TxAction`: what the engine sends in answer to a segment. -/
inductive TxAction where
  | none
  | ack
  | rst
  | rstForSynSentBadAck
deriving DecidableEq, Repr

end DpdkTcp
