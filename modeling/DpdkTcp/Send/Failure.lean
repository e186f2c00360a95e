import DpdkTcp.Send.Transmit
import DpdkTcp.Input.Opened

/-!
# Failed retransmissions

Each early return of `retransmit_inner` gives back the references it took and
leaves the payload of the entry in its buffer. The flag `lost` is another
matter: RACK and the RTO fire raise it before they call `retransmit`, and only a
successful transmission clears it.
-/

namespace DpdkTcp

namespace Engine

/-- The entry's buffer is referenced and holds its payload. -/
structure Holds (engine : Engine) (entry : RetransEntry) : Prop where
  referenced : 0 < (engine.mbufs entry.mbuf).refcnt
  payload : entry.len ≤ (engine.mbufs entry.mbuf).data.length
  small : (engine.mbufs entry.mbuf).data.length < 65536

theorem Holds.liveHdrsLen {engine : Engine} {entry : RetransEntry} (holds : engine.Holds entry) :
    engine.liveHdrsLen entry = (engine.mbufs entry.mbuf).data.length - entry.len := by
  have payload := holds.payload
  have small := holds.small
  unfold Engine.liveHdrsLen asU16
  omega

/-- The payload is the end of the data region, whatever is left before it. -/
theorem Holds.entryPayload {engine : Engine} {entry : RetransEntry} (holds : engine.Holds entry) :
    engine.entryPayload entry =
      (engine.mbufs entry.mbuf).data.drop
        ((engine.mbufs entry.mbuf).data.length - entry.len) := by
  have payload := holds.payload
  rw [Engine.entryPayload, holds.liveHdrsLen, List.take_of_length_le]
  rw [List.length_drop]
  omega

section Prepared

variable {engine : Engine} {entry : RetransEntry} {hdrMbuf : ℕ} (holds : engine.Holds entry)
  (apart : entry.mbuf ≠ hdrMbuf)

include holds apart

/-- The data buffer of a prepared retransmission holds the payload alone. -/
theorem prepared_data (conn : TcpConn) (optionsNs : ℕ) (header : List UInt8) :
    (engine.prepared conn entry optionsNs hdrMbuf header).mbufs entry.mbuf =
      { data := engine.entryPayload entry
        refcnt := (engine.mbufs entry.mbuf).refcnt + 1 } := by
  have same : (engine.allocMbuf hdrMbuf).mbufs entry.mbuf = engine.mbufs entry.mbuf := by
    rw [allocMbuf, mbufs_setMbuf, if_neg apart]
  have written : ((engine.allocMbuf hdrMbuf).writeRetransHeader conn entry optionsNs hdrMbuf
      header).mbufs entry.mbuf = engine.mbufs entry.mbuf := by
    rw [writeRetransHeader, writeMbuf, mbufs_setMbuf, if_neg apart, same]
  have live : (engine.allocMbuf hdrMbuf).liveHdrsLen entry =
      (engine.mbufs entry.mbuf).data.length - entry.len := by
    rw [← holds.liveHdrsLen, Engine.liveHdrsLen, same, Engine.liveHdrsLen]
  dsimp only [prepared]
  rw [live, holds.entryPayload]
  generalize (engine.allocMbuf hdrMbuf).writeRetransHeader conn entry optionsNs hdrMbuf header =
    target at written ⊢
  have payload := holds.payload
  have stripped : (target.stripHeader entry.mbuf
      ((engine.mbufs entry.mbuf).data.length - entry.len)).mbufs entry.mbuf =
      { data := (engine.mbufs entry.mbuf).data.drop
          ((engine.mbufs entry.mbuf).data.length - entry.len)
        refcnt := (engine.mbufs entry.mbuf).refcnt } := by
    unfold stripHeader adjMbuf
    rw [written]
    split
    · rw [if_neg (by omega), writeMbuf, mbufs_setMbuf, if_pos rfl, written]
    · rename_i none
      have zero : (engine.mbufs entry.mbuf).data.length - entry.len = 0 := by omega
      rw [written, zero, List.drop_zero]
  rw [holdMbuf, mbufs_setMbuf, if_pos rfl, stripped]

omit holds apart in
/-- The other buffers but the header's are as before. -/
theorem prepared_other (conn : TcpConn) (optionsNs : ℕ) (header : List UInt8) {addr : ℕ}
    (notData : addr ≠ entry.mbuf) (notHdr : addr ≠ hdrMbuf) :
    (engine.prepared conn entry optionsNs hdrMbuf header).mbufs addr = engine.mbufs addr := by
  dsimp only [prepared]
  rw [holdMbuf, mbufs_setMbuf, if_neg notData, mbufs_stripHeader_of_ne _ _ notData,
    writeRetransHeader, writeMbuf, mbufs_setMbuf, if_neg notHdr, allocMbuf, mbufs_setMbuf,
    if_neg notHdr]

omit holds in
/-- The header buffer holds the header, with its checksums where the driver wants them. -/
theorem prepared_hdr (conn : TcpConn) (optionsNs : ℕ) (header : List UInt8) :
    (engine.prepared conn entry optionsNs hdrMbuf header).mbufs hdrMbuf =
      { data := txOffloadFinalize (header.take (asU16 header.length))
          (engine.retransSegment conn entry optionsNs) entry.len engine.cfg.txCksumOffloadActive
        refcnt := 1 } := by
  have notData : hdrMbuf ≠ entry.mbuf := Ne.symm apart
  dsimp only [prepared]
  rw [holdMbuf, mbufs_setMbuf, if_neg notData, mbufs_stripHeader_of_ne _ _ notData,
    writeRetransHeader, writeMbuf, mbufs_setMbuf, if_pos rfl, allocMbuf, mbufs_setMbuf, if_pos rfl]
  rfl

end Prepared

end Engine

/-! ### The `lost` flag -/

/-- An entry after its index was among the marked ones, or not. -/
def RetransEntry.markedLost (entry : RetransEntry) (hit : Bool) : RetransEntry :=
  if hit then { entry with lost := true } else entry

theorem getElem?_markLost (retrans : SendRetrans) (marked : List ℕ) (index : ℕ) :
    (retrans.markLost marked).entries[index]? =
      retrans.entries[index]?.map fun entry => entry.markedLost (decide (index ∈ marked)) := by
  simp only [SendRetrans.markLost, List.getElem?_mapIdx, RetransEntry.markedLost,
    decide_eq_true_eq]

/-- An engine with one opened connection and nothing sent. -/
def openedEngine : Engine :=
  { cfg :=
      { localIp := 0x0a000002#32
        tcpMss := 1460
        recvBufferBytes := 1000
        sendBufferBytes := 1000
        tcpMinRtoUs := 5000
        tcpInitialRtoUs := 5000
        tcpMaxRtoUs := 1000000
        tcpMaxRetransCount := 15
        tcpPerPacketEvents := false
        tcpTimestamps := true
        tcpSack := true
        tcpMslMs := 30000
        txRingSize := 512
        txCksumOffloadActive := false
        ourMac := Vector.replicate 6 1
        gatewayMac := Vector.replicate 6 2 }
    flowTable := ⟨[some (opened 100#32 200#32 1000 1000 5000)], fun _ => none⟩
    timerWheel := TimerWheel.new
    events := EventQueue.withCap EventQueue.MIN_SOFT_CAP
    txPendingData := []
    driverFrames := []
    mbufs := fun _ => ⟨[], 0⟩
    rxRefs := RxRefs.full
    picked := []
    record := {} }

/-- Three bytes go out in the buffer at address 1, five milliseconds after the start. -/
def sentThree : Engine :=
  (openedEngine.sendBytes 1 [1, 2, 3]
    (fun _ => ⟨some 1, true, 0, 5000000, 5000000⟩) 5000000).1

/-- Its connection. -/
def sentThreeConn : TcpConn :=
  (sentThree.flowTable.get 1).getD (opened 100#32 200#32 1000 1000 5000)

/-- A retransmission for which the header pool is empty. -/
def noHeaderMbuf : RetransmitEnv :=
  ⟨1, none, true, true, 0, 10000000, 10000000, 10000000⟩

end DpdkTcp
