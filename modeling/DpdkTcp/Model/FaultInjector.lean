import DpdkTcp.Model.RxPool

/-!
# The fault injector

`FaultInjector::process` stands between the RX burst and the decoders: it drops,
corrupts, duplicates or holds back a received frame. The outcomes of its draws
are given from outside. A frame is the list of the addresses of its buffers;
their bytes and reference counts are in the memory of the pool.
-/

namespace DpdkTcp

/-- An mbuf chain, by address: the head and what its `next` pointers lead to. -/
structure MbufChain where
  head : ℕ
  next : List ℕ
deriving DecidableEq, Repr

/-- The buffers of a chain. -/
def MbufChain.segs (chain : MbufChain) : List ℕ :=
  chain.head :: chain.next

/-- The buffers of the pool: the populated bytes and the reference counts. -/
structure MbufMemory where
  data : ℕ → List UInt8
  refs : RxRefs

namespace MbufMemory

/-- `rte_pktmbuf_free`: every buffer of the chain loses a reference. -/
def pktmbufFree (mem : MbufMemory) (chain : MbufChain) : MbufMemory :=
  { mem with refs := mem.refs.freeAll chain.segs }

/-- The walk over the chain that takes a further reference to every buffer. -/
def bumpChain (mem : MbufMemory) (chain : MbufChain) : MbufMemory :=
  { mem with refs := mem.refs.applyAll (chain.segs.map fun seg => RefUpdate.refcntUpdate seg 1) }

/-- `rte_eth_rx_burst` hands out a chain of buffers of the pool with a received frame. -/
def rxAlloc (mem : MbufMemory) (chain : MbufChain) (frame : ℕ → List UInt8) : MbufMemory :=
  { data := fun addr => if addr ∈ chain.segs then frame addr else mem.data addr
    refs := chain.segs.foldl (fun refs seg => refs.setRef seg RefCount.Ref.alloc) mem.refs }

end MbufMemory

/-- The outcomes of the draws of one call, whatever the rates and the generator. -/
structure FaultDraws where
  drop : Bool
  corrupt : Bool
  index : (dataLen : ℕ) → 0 < dataLen → Fin dataLen
  xor : UInt8
  dup : Bool
  reorder : Bool

/-- How often each fault was injected. -/
structure FaultInjectorCounters where
  drops : ℕ
  corrupts : ℕ
  dups : ℕ
  reorders : ℕ
deriving DecidableEq, Repr

/-- How many frames may be held back. -/
def REORDER_RING_LEN : ℕ := 16

/-- The injector with the frames it holds back. -/
structure FaultInjector where
  reorderRing : Option (List MbufChain)
deriving DecidableEq, Repr

/-- An injector between calls, with what its calls change. -/
structure FaultState where
  injector : FaultInjector
  mem : MbufMemory
  counters : FaultInjectorCounters

/-- What a call comes to. `stored` and `evicted` record what went into the ring
and what came out of it, and are read by no function. -/
structure FaultResult where
  state : FaultState
  out : List MbufChain
  stored : List MbufChain := []
  evicted : List MbufChain := []

namespace FaultInjector

/-- An injector that holds nothing back. -/
def new : FaultInjector :=
  { reorderRing := none }

/-- The frames in the ring, oldest first. -/
def held (injector : FaultInjector) : List MbufChain :=
  injector.reorderRing.getD []

end FaultInjector

namespace FaultState

/-- The corruption of a byte of the head buffer, where it has one. -/
def corruptHead (state : FaultState) (mbuf : MbufChain) (draws : FaultDraws) : FaultState :=
  if draws.corrupt then
    if filled : 0 < (state.mem.data mbuf.head).length then
      let idx := draws.index (state.mem.data mbuf.head).length filled
      let xor := max draws.xor 1
      { state with
        mem :=
          { state.mem with
            data := fun addr =>
              if addr = mbuf.head then
                (state.mem.data mbuf.head).set idx ((state.mem.data mbuf.head).get idx ^^^ xor)
              else state.mem.data addr }
        counters := { state.counters with corrupts := state.counters.corrupts + 1 } }
    else state
  else state

/-- The frame goes out once, or twice with a further reference to each buffer. -/
def duplicate (state : FaultState) (mbuf : MbufChain) (draws : FaultDraws) : FaultResult :=
  if draws.dup then
    { state :=
        { state with
          mem := state.mem.bumpChain mbuf
          counters := { state.counters with dups := state.counters.dups + 1 } }
      out := [mbuf, mbuf] }
  else { state := state, out := [mbuf] }

/-- The last frame goes into the ring; a full ring gives out its oldest frame for it. -/
def holdBack (result : FaultResult) (draws : FaultDraws) : FaultResult :=
  if draws.reorder then
    match result.out.getLast? with
    | none => result
    | some held =>
        let ring := result.state.injector.held
        let counters :=
          { result.state.counters with reorders := result.state.counters.reorders + 1 }
        if ring.length = REORDER_RING_LEN then
          { state :=
              { result.state with
                injector := { reorderRing := some (ring.drop 1 ++ [held]) }
                counters := counters }
            out := result.out.dropLast ++ ring.take 1
            stored := [held]
            evicted := ring.take 1 }
        else
          { state :=
              { result.state with
                injector := { reorderRing := some (ring ++ [held]) }
                counters := counters }
            out := result.out.dropLast
            stored := [held] }
  else result

/-- `process`. -/
def process (state : FaultState) (mbuf : MbufChain) (draws : FaultDraws) : FaultResult :=
  if draws.drop then
    { state :=
        { state with
          mem := state.mem.pktmbufFree mbuf
          counters := { state.counters with drops := state.counters.drops + 1 } }
      out := [] }
  else holdBack ((state.corruptHead mbuf draws).duplicate mbuf draws) draws

/-- `Drop`: the frames still held are freed. -/
def drop (state : FaultState) : FaultState :=
  { state with
    injector := { reorderRing := none }
    mem := state.injector.held.foldl MbufMemory.pktmbufFree state.mem }

end FaultState

end DpdkTcp
