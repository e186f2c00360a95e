import DpdkTcp.Model.RxPool

/-!
# Receive queues

The in-order queue and the out-of-order queue of `tcp_conn.rs` and
`tcp_reassembly.rs`. Both hold windows into received buffers, never copies of
the bytes; a buffer handle carries the bytes it points to, which do not change
while a reference is held. Changes to reference counts are returned as a log.
-/

namespace DpdkTcp

/-- `InOrderSegment`: a window of payload in a pinned buffer. -/
structure InOrderSegment where
  mbuf : RxMbuf
  offset : ℕ
  len : ℕ
deriving DecidableEq, Repr

/-- The bytes `data_ptr()[..len]` shows to the application. -/
def InOrderSegment.bytes (seg : InOrderSegment) : List UInt8 :=
  (seg.mbuf.data.drop seg.offset).take seg.len

/-- `OooSegment`: a window of payload received ahead of `rcv_nxt`. -/
structure OooSegment where
  seq : Seq
  mbuf : RxMbuf
  offset : ℕ
  len : ℕ
deriving DecidableEq, Repr

/-- The number right behind the piece. -/
def OooSegment.endSeq (seg : OooSegment) : Seq :=
  seqAdd seg.seq seg.len

/-- What an `insert` reports to its caller. -/
structure InsertOutcome where
  newlyBuffered : ℕ
  capDropped : ℕ
  mbufRefRetained : Bool
deriving DecidableEq, Repr

/-- The pieces that came ahead of a gap, with their bytes counted. -/
structure ReorderQueue where
  segments : List OooSegment
  cap : ℕ
  totalBytes : ℕ
deriving DecidableEq, Repr

namespace ReorderQueue

/-- A queue without pieces. -/
def new (cap : ℕ) : ReorderQueue :=
  { segments := [], cap := cap, totalBytes := 0 }

/-- No piece waits behind a gap. -/
def isEmpty (queue : ReorderQueue) : Bool :=
  queue.segments.isEmpty

/-- `clear`: the queue without its segments, which are dropped. -/
def clear (queue : ReorderQueue) : ReorderQueue :=
  { queue with segments := [], totalBytes := 0 }

end ReorderQueue

/-- What stays fixed while an incoming payload is carved. -/
structure Incoming where
  seq : Seq
  payloadLen : ℕ
  mbufPayloadOffset : ℕ
  cap : ℕ
  totalBytes : ℕ

/-- The accumulators of the carving scan. A pending insert is a sequence
number, an offset in the buffer and a length. -/
structure Carve where
  cursor : Seq
  newlyBuffered : ℕ
  capDropped : ℕ
  toInsert : List (Seq × ℕ × ℕ)

namespace Carve

variable (incoming : Incoming)

/-- Plan the `wanted` bytes at the cursor, as far as the cap allows. -/
def store (carve : Carve) (wanted : ℕ) : Carve :=
  let off := (carve.cursor - incoming.seq).toNat
  let remainingCap := incoming.cap - (incoming.totalBytes + carve.newlyBuffered)
  let take := min wanted remainingCap
  { carve with
    newlyBuffered := carve.newlyBuffered + take
    capDropped := carve.capDropped + (wanted - take)
    toInsert :=
      if 0 < take then
        carve.toInsert ++
          [(carve.cursor, asU16 (incoming.mbufPayloadOffset + asU16 off), asU16 take)]
      else carve.toInsert }

/-- The bytes between the cursor and the next stored segment. -/
def gapWanted (carve : Carve) (existing : OooSegment) : ℕ :=
  min (existing.seq - carve.cursor).toNat
    (incoming.payloadLen - (carve.cursor - incoming.seq).toNat)

/-- Fill the gap before `existing` and move the cursor over what was planned. -/
def fillGap (carve : Carve) (existing : OooSegment) : Carve :=
  if seqLt carve.cursor existing.seq then
    let wanted := carve.gapWanted incoming existing
    { carve.store incoming wanted with cursor := seqAdd carve.cursor wanted }
  else carve

/-- Move the cursor behind a stored segment. -/
def skipOver (carve : Carve) (existing : OooSegment) : Carve :=
  if seqLt carve.cursor existing.endSeq then { carve with cursor := existing.endSeq } else carve

/-- The loop of `insert` over the stored segments. -/
def scan (incomingEnd : Seq) : List OooSegment → Carve → Carve
  | [], carve => carve
  | existing :: rest, carve =>
      if seqLe incomingEnd existing.seq then carve
      else if seqLe existing.endSeq carve.cursor then scan incomingEnd rest carve
      else scan incomingEnd rest ((carve.fillGap incoming existing).skipOver existing)

/-- What lies behind the last stored segment. -/
def fillTail (incomingEnd : Seq) (carve : Carve) : Carve :=
  if seqLt carve.cursor incomingEnd then
    carve.store incoming (incoming.payloadLen - (carve.cursor - incoming.seq).toNat)
  else carve

end Carve

/-- `insert_merged`: put a segment before the first one with a larger sequence number. -/
def insertMerged (seg : OooSegment) : List OooSegment → List OooSegment
  | [] => [seg]
  | head :: rest =>
      if seqLt seg.seq head.seq then seg :: head :: rest else head :: insertMerged seg rest

/-- What an `insert` leaves behind. -/
structure InsertResult where
  queue : ReorderQueue
  outcome : InsertOutcome
  refUpdates : List RefUpdate

namespace ReorderQueue

/-- The carving pass of `insert`, which does not change the queue. -/
def carve (queue : ReorderQueue) (seq : Seq) (payload : List UInt8) (mbufPayloadOffset : ℕ) :
    Carve :=
  let incoming : Incoming :=
    { seq := seq
      payloadLen := payload.length
      mbufPayloadOffset := mbufPayloadOffset
      cap := queue.cap
      totalBytes := queue.totalBytes }
  let incomingEnd := seqAdd seq payload.length
  let start : Carve := { cursor := seq, newlyBuffered := 0, capDropped := 0, toInsert := [] }
  (Carve.scan incoming incomingEnd queue.segments start).fillTail incoming incomingEnd

/-- `insert`: store the bytes of `payload` that no stored segment holds yet. -/
def insert (queue : ReorderQueue) (seq : Seq) (payload : List UInt8) (mbuf : RxMbuf)
    (mbufPayloadOffset : ℕ) : InsertResult :=
  if payload.isEmpty then
    { queue := queue
      outcome := { newlyBuffered := 0, capDropped := 0, mbufRefRetained := false }
      refUpdates := [] }
  else
    let carved := queue.carve seq payload mbufPayloadOffset
    let storedCount := carved.toInsert.length
    let segments := carved.toInsert.foldl
      (fun stored piece => insertMerged ⟨piece.1, mbuf, piece.2.1, piece.2.2⟩ stored)
      queue.segments
    { queue :=
        { queue with
          segments := segments
          totalBytes := queue.totalBytes + carved.newlyBuffered }
      outcome :=
        { newlyBuffered := carved.newlyBuffered
          capDropped := carved.capDropped
          mbufRefRetained := decide (0 < storedCount) }
      refUpdates :=
        if 1 < storedCount then [.refcntUpdate mbuf.addr (storedCount - 1)] else [] }

end ReorderQueue

/-- The result of a drain: the remaining queue, the appended windows in order,
and the two byte counts. -/
structure Drained where
  segments : List OooSegment
  totalBytes : ℕ
  appended : List InOrderSegment
  bytesAppended : ℕ
  capDropped : ℕ
  refUpdates : List RefUpdate

/-- The loop of `drain_contiguous_into`. -/
def drainSegments : List OooSegment → (rcvNxt : Seq) → (capRoom totalBytes : ℕ) → Drained
  | [], _, _, totalBytes => ⟨[], totalBytes, [], 0, 0, []⟩
  | seg :: rest, rcvNxt, capRoom, totalBytes =>
      if seqLt rcvNxt seg.seq then ⟨seg :: rest, totalBytes, [], 0, 0, []⟩
      else if seqLe seg.endSeq rcvNxt then
        let drained := drainSegments rest rcvNxt capRoom (totalBytes - seg.len)
        { drained with refUpdates := .freeSeg seg.mbuf.addr :: drained.refUpdates }
      else
        let skip := asU16 (rcvNxt - seg.seq).toNat
        let keptBytes := seg.len - skip
        let appended := asU16 (min keptBytes capRoom)
        let drained :=
          drainSegments rest (seqAdd rcvNxt appended) (capRoom - appended) (totalBytes - seg.len)
        if 0 < appended then
          { drained with
            appended := ⟨seg.mbuf, asU16 (seg.offset + skip), appended⟩ :: drained.appended
            bytesAppended := appended + drained.bytesAppended
            capDropped := keptBytes - appended + drained.capDropped }
        else
          { drained with
            capDropped := keptBytes + drained.capDropped
            refUpdates := .freeSeg seg.mbuf.addr :: drained.refUpdates }

/-- What `drain_contiguous_into` leaves of the queue and of the caller's `out`, and what it
returns. -/
structure DrainResult where
  queue : ReorderQueue
  out : List InOrderSegment
  bytesAppended : ℕ
  capDropped : ℕ
  refUpdates : List RefUpdate

/-- `drain_contiguous_into`: move the windows that start at or before `rcv_nxt` to `out`. -/
def ReorderQueue.drainContiguousInto (queue : ReorderQueue) (rcvNxt : Seq) (capRoom : ℕ)
    (out : List InOrderSegment) : DrainResult :=
  let drained := drainSegments queue.segments rcvNxt capRoom queue.totalBytes
  { queue := { queue with segments := drained.segments, totalBytes := drained.totalBytes }
    out := out ++ drained.appended
    bytesAppended := drained.bytesAppended
    capDropped := drained.capDropped
    refUpdates := drained.refUpdates }

/-- `RecvQueue`: the in-order windows and the reorder queue, under one cap. -/
structure RecvQueue where
  bytes : List InOrderSegment
  cap : ℕ
  reorder : ReorderQueue
deriving DecidableEq, Repr

namespace RecvQueue

/-- A receive queue without data. -/
def new (cap : ℕ) : RecvQueue :=
  { bytes := [], cap := cap, reorder := ReorderQueue.new cap }

/-- The buffers the two queues keep a reference to, one for each window. -/
def pinned (recv : RecvQueue) : List ℕ :=
  (recv.bytes.map fun seg => seg.mbuf.addr) ++
    recv.reorder.segments.map fun seg => seg.mbuf.addr

/-- The payload bytes held in order, as the application will read them. -/
def contents (recv : RecvQueue) : List UInt8 :=
  recv.bytes.flatMap InOrderSegment.bytes

/-- The bytes that wait for the application in order. -/
def bufferedBytes (recv : RecvQueue) : ℕ :=
  (recv.bytes.map InOrderSegment.len).sum

/-- The room beside the bytes in order. -/
def freeSpace (recv : RecvQueue) : ℕ :=
  recv.cap - recv.bufferedBytes

/-- The room beside all bytes, those behind a gap included. -/
def freeSpaceTotal (recv : RecvQueue) : ℕ :=
  recv.cap - recv.bufferedBytes - recv.reorder.totalBytes

end RecvQueue

/-- `SendQueue`: bytes submitted and not yet acknowledged. -/
structure SendQueue where
  pending : List UInt8
  cap : ℕ
deriving DecidableEq, Repr

end DpdkTcp
