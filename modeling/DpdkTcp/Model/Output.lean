import DpdkTcp.Model.Wire

/-!
# Segment builders

`tcp_output.rs` and the option encoder of `tcp_options.rs`: complete Ethernet,
IPv4 and TCP frames as bytes. A retransmitted segment is built as a header
alone, whose lengths and checksum cover the payload in a chained buffer.
-/

namespace DpdkTcp

/-- The length of an Ethernet header. -/
def ETH_HDR_LEN : ℕ := 14

/-- The length of an IPv4 header without options. -/
def IPV4_HDR_MIN : ℕ := 20

/-- The length of a TCP header without options. -/
def TCP_HDR_MIN : ℕ := 20

/-- The length of the three headers without options. -/
def FRAME_HDRS_MIN : ℕ := ETH_HDR_LEN + IPV4_HDR_MIN + TCP_HDR_MIN

/-- The protocol number of TCP. -/
def IPPROTO_TCP : UInt8 := 6

/-- `to_be_bytes` of a 16-bit number, taken modulo `2^16`. -/
def be16 (value : ℕ) : List UInt8 :=
  [UInt8.ofNat (value / 256), UInt8.ofNat value]

/-- `to_be_bytes` of a 32-bit number. -/
def be32 (value : BitVec 32) : List UInt8 :=
  [UInt8.ofNat (value.toNat / 16777216), UInt8.ofNat (value.toNat / 65536),
    UInt8.ofNat (value.toNat / 256), UInt8.ofNat value.toNat]

/-- The ones'-complement sum; `carry` is the byte still to be paired. The source
walks slices and carries an odd byte from one to the next. -/
def checksumSum : (sum : BitVec 32) → (carry : Option UInt8) → List UInt8 → BitVec 32
  | sum, none, [] => sum
  | sum, some high, [] => sum + BitVec.ofNat 32 (high.toNat * 256)
  | sum, none, byte :: rest => checksumSum sum (some byte) rest
  | sum, some high, byte :: rest =>
      checksumSum (sum + BitVec.ofNat 32 (high.toNat * 256 + byte.toNat)) none rest

/-- The carry of a sum is added to its low 16 bits. -/
def foldCarry (sum : ℕ) : ℕ :=
  sum % 65536 + sum / 65536

/-- `internet_checksum`. Two folds empty the upper half of a 32-bit sum, and a
further one changes nothing. -/
def internetChecksum (bytes : List UInt8) : ℕ :=
  65535 - foldCarry (foldCarry (checksumSum 0#32 none bytes).toNat)

namespace TcpOpts

/-- The block of SACK-permitted and timestamps, padded to whole words. -/
def encodeSackPermittedAndTimestamps (opts : TcpOpts) : List UInt8 :=
  match opts.sackPermitted, opts.timestamps with
  | true, some (tsval, tsecr) =>
      [OPT_SACK_PERMITTED, 2, OPT_TIMESTAMP, 10] ++ be32 tsval ++ be32 tsecr
  | true, none => [OPT_NOP, OPT_NOP, OPT_SACK_PERMITTED, 2]
  | false, some (tsval, tsecr) =>
      [OPT_NOP, OPT_NOP, OPT_TIMESTAMP, 10] ++ be32 tsval ++ be32 tsecr
  | false, none => []

/-- `encode`, into a buffer of exactly `encoded_len` bytes. -/
def encode (opts : TcpOpts) : List UInt8 :=
  (match opts.mss with
    | some mss => [OPT_MSS, 4] ++ be16 mss.toNat
    | none => []) ++
  (match opts.wscale with
    | some shift => [OPT_NOP, OPT_WSCALE, 3, shift]
    | none => []) ++
  opts.encodeSackPermittedAndTimestamps ++
  (if 0 < opts.sackBlockCount then
    [OPT_NOP, OPT_NOP, OPT_SACK, UInt8.ofNat (2 + 8 * opts.sackBlockCount)] ++
      opts.liveSackBlocks.flatMap fun block => be32 block.left ++ be32 block.right
  else [])

end TcpOpts

/-- A segment to be sent. -/
structure SegmentTx where
  srcMac : Vector UInt8 6
  dstMac : Vector UInt8 6
  srcIp : BitVec 32
  dstIp : BitVec 32
  srcPort : UInt16
  dstPort : UInt16
  seq : Seq
  ack : Seq
  flags : Flags
  window : ℕ
  options : TcpOpts
  payload : List UInt8

namespace SegmentTx

/-- The length of the TCP header with its options. -/
def tcpHdrLen (seg : SegmentTx) : ℕ :=
  TCP_HDR_MIN + seg.options.encodedLen

/-- The Ethernet header. -/
def ethHeader (seg : SegmentTx) : List UInt8 :=
  seg.dstMac.toList ++ seg.srcMac.toList ++ [0x08, 0x00]

/-- The IPv4 header with a given checksum field. -/
def ipHeader (seg : SegmentTx) (totalIpLen checksum : ℕ) : List UInt8 :=
  [0x45, 0x00] ++ be16 totalIpLen ++ [0x00, 0x00, 0x40, 0x00, 64, IPPROTO_TCP] ++
    be16 checksum ++ be32 seg.srcIp ++ be32 seg.dstIp

/-- The TCP header and options with a given checksum field. -/
def tcpHeader (seg : SegmentTx) (checksum : ℕ) : List UInt8 :=
  be16 seg.srcPort.toNat ++ be16 seg.dstPort.toNat ++ be32 seg.seq ++ be32 seg.ack ++
    [UInt8.ofNat (seg.tcpHdrLen / 4 * 16), UInt8.ofBitVec seg.flags] ++ be16 seg.window ++ be16 checksum ++
    [0, 0] ++ seg.options.encode

/-- The pseudo header of the TCP checksum. -/
def pseudoHeader (seg : SegmentTx) (tcpSegLen : ℕ) : List UInt8 :=
  be32 seg.srcIp ++ be32 seg.dstIp ++ [0, IPPROTO_TCP] ++ be16 tcpSegLen

end SegmentTx

/-- `build_segment_inner`: the bytes written to an output buffer of `room` bytes. -/
def buildSegmentInner (seg : SegmentTx) (payloadForCsum : List UInt8) (declaredPayloadLen room : ℕ) :
    Option (List UInt8) :=
  let totalWritten := ETH_HDR_LEN + IPV4_HDR_MIN + seg.tcpHdrLen + seg.payload.length
  let totalIpLen := IPV4_HDR_MIN + seg.tcpHdrLen + declaredPayloadLen
  if room < totalWritten then none
  else if 65535 < totalIpLen then none
  else
    let ipCsum := internetChecksum (seg.ipHeader totalIpLen 0)
    let csum := internetChecksum
      (seg.pseudoHeader (seg.tcpHdrLen + declaredPayloadLen) ++ seg.tcpHeader 0 ++ payloadForCsum)
    some (seg.ethHeader ++ seg.ipHeader totalIpLen ipCsum ++ seg.tcpHeader csum ++ seg.payload)

/-- `build_segment`: a frame with its payload behind the headers. -/
def buildSegment (seg : SegmentTx) (room : ℕ) : Option (List UInt8) :=
  buildSegmentInner seg seg.payload seg.payload.length room

/-- `build_retrans_header`: the header alone; the payload is in another buffer. -/
def buildRetransHeader (seg : SegmentTx) (payloadForCsum : List UInt8) (room : ℕ) :
    Option (List UInt8) :=
  if 65535 < payloadForCsum.length then none
  else buildSegmentInner seg payloadForCsum payloadForCsum.length room

/-- Overwrite bytes in place. -/
def overwrite (frame : List UInt8) (offset : ℕ) (bytes : List UInt8) : List UInt8 :=
  frame.take offset ++ bytes ++ frame.drop (offset + bytes.length)

/-- `tx_offload_rewrite_cksums`, for a driver that computes the checksums: the
pseudo-header fold alone in the TCP header, zero in the IPv4 header. -/
def txOffloadRewriteCksums (frame : List UInt8) (seg : SegmentTx) (payloadForCsumLen : ℕ) :
    List UInt8 :=
  if frame.length < FRAME_HDRS_MIN then frame
  else
    let pseudo := internetChecksum (seg.pseudoHeader (seg.tcpHdrLen + payloadForCsumLen))
    overwrite (overwrite frame (ETH_HDR_LEN + IPV4_HDR_MIN + 16) (be16 pseudo))
      (ETH_HDR_LEN + 10) [0, 0]

/-- `tx_offload_finalize`, on the bytes of the frame. -/
def txOffloadFinalize (frame : List UInt8) (seg : SegmentTx) (payloadForCsumLen : ℕ)
    (offloadActive : Bool) : List UInt8 :=
  if offloadActive then txOffloadRewriteCksums frame seg payloadForCsumLen else frame

/-! ### The option encoder on its output buffer -/

/-- The output buffer of `encode` and the index behind what is written. -/
structure OptsCursor where
  out : List UInt8
  i : ℕ

/-- Write bytes at the index and move it behind them. -/
def OptsCursor.put (cursor : OptsCursor) (bytes : List UInt8) : OptsCursor :=
  { out := overwrite cursor.out cursor.i bytes
    i := cursor.i + bytes.length }

namespace TcpOpts

variable (opts : TcpOpts) (cursor : OptsCursor)

/-- The first step of `encode`: MSS. -/
def putMss : OptsCursor :=
  match opts.mss with
  | some mss => cursor.put ([OPT_MSS, 4] ++ be16 mss.toNat)
  | none => cursor

/-- The second step: the window scale behind a NOP. -/
def putWscale : OptsCursor :=
  match opts.wscale with
  | some shift => cursor.put [OPT_NOP, OPT_WSCALE, 3, shift]
  | none => cursor

/-- The third step: SACK-permitted and timestamps. -/
def putSackPermittedAndTimestamps : OptsCursor :=
  match opts.sackPermitted, opts.timestamps with
  | true, some (tsval, tsecr) =>
      (cursor.put [OPT_SACK_PERMITTED, 2]).put ([OPT_TIMESTAMP, 10] ++ be32 tsval ++ be32 tsecr)
  | true, none => cursor.put [OPT_NOP, OPT_NOP, OPT_SACK_PERMITTED, 2]
  | false, some (tsval, tsecr) =>
      (cursor.put [OPT_NOP, OPT_NOP]).put ([OPT_TIMESTAMP, 10] ++ be32 tsval ++ be32 tsecr)
  | false, none => cursor

/-- The fourth step: the SACK blocks. -/
def putSackBlocks : OptsCursor :=
  if 0 < opts.sackBlockCount then
    opts.liveSackBlocks.foldl (fun cursor block => cursor.put (be32 block.left ++ be32 block.right))
      (cursor.put [OPT_NOP, OPT_NOP, OPT_SACK, UInt8.ofNat (2 + 8 * opts.sackBlockCount)])
  else cursor

/-- `encode`: what it leaves in `out`, and the number of bytes it returns. -/
def encodeInto (out : List UInt8) : Option (List UInt8 × ℕ) :=
  if out.length < opts.encodedLen then none
  else
    let written := opts.putSackBlocks
      (opts.putSackPermittedAndTimestamps (opts.putWscale (opts.putMss { out := out, i := 0 })))
    some (written.out, written.i)

end TcpOpts

end DpdkTcp
