import DpdkTcp.Lib.RefCount
import DpdkTcp.Model.Wire

/-!
# Received buffers

The `rte_mbuf`s the device fills. Their reference counts are changed by
`rte_mbuf_refcnt_update`, which does nothing else, and by
`rte_pktmbuf_free_seg`, which gives a buffer back to its pool with the last
reference.
-/

namespace DpdkTcp

/-- A received `rte_mbuf` link. Its `data_len` is a 16-bit field. -/
structure RxMbuf where
  addr : ℕ
  data : List UInt8
  dataLen_lt : data.length < 65536
deriving DecidableEq, Repr

/-- The reference count of a buffer, a 16-bit field, and whether its pool has it.
A buffer in its pool is counted zero. -/
abbrev RxRef :=
  RefCount.Ref 16

/-- A change to the reference count of the buffer at an address. -/
abbrev RefUpdate :=
  RefCount.Change ℕ

namespace RefUpdate

/-- `rte_mbuf_refcnt_update`. -/
abbrev refcntUpdate (addr : ℕ) (delta : Int) : RefUpdate :=
  .update addr delta

/-- `rte_pktmbuf_free_seg`. -/
abbrev freeSeg (addr : ℕ) : RefUpdate :=
  .free addr

end RefUpdate

/-- The references of all received buffers, by address. -/
abbrev RxRefs :=
  RefCount.Refs 16 ℕ

/-- Every buffer is in its pool. -/
def RxRefs.full : RxRefs :=
  fun _ => RefCount.Ref.counted 0

end DpdkTcp
