import DpdkTcp.Model.Host

/-!
# The receive path of a poll

Two places hold received buffers beside the connections and the event queue: the
RX burst, until `dispatch_one_real_mbuf` frees each frame behind its dispatch, and
`drained_events_scratch`, where the events handed to the application stay until
the next poll.
-/

namespace DpdkTcp

/-- A received frame, as the chain of its buffers. -/
structure RxChain where
  head : RxMbuf
  next : List RxMbuf
deriving DecidableEq, Repr

/-- The addresses of the buffers of a chain. -/
def RxChain.addrs (chain : RxChain) : List ℕ :=
  (chain.head :: chain.next).map RxMbuf.addr

/-- What the decoders make of a frame: a segment of a connection, and the offset
of its payload in the first buffer when the payload may be kept there. -/
structure RxInput where
  handle : ConnHandle
  seg : ParsedSegment
  payloadOffset : Option ℕ
  env : InputEnv

/-- The `mbuf_ctx` of `tcp_input`. -/
def RxInput.mbufCtx (input : RxInput) (chain : RxChain) : Option MbufInsertCtx :=
  input.payloadOffset.map fun offset => ⟨chain.head, offset, chain.next⟩

namespace Engine

/-- Events are dropped, with the windows they own. -/
def dropEvents (engine : Engine) (events : List InternalEvent) : Engine :=
  { engine with rxRefs := engine.rxRefs.freeAll (events.flatMap InternalEvent.pinned) }

/-- `rte_eth_rx_burst` returned buffers of the pool. -/
def rxAlloc (engine : Engine) (addrs : List ℕ) : Engine :=
  { engine with
    rxRefs := addrs.foldl (fun refs addr => refs.setRef addr RefCount.Ref.alloc) engine.rxRefs }

/-- `rte_pktmbuf_free` on the head of a chain: each link is freed. -/
def freeChain (engine : Engine) (chain : RxChain) : Engine :=
  { engine with rxRefs := engine.rxRefs.freeAll chain.addrs }

end Engine

/-- The receive side without its windows. -/
def TcpConn.unpinned (conn : TcpConn) : TcpConn :=
  { conn with
    recv := { conn.recv with bytes := [], reorder := conn.recv.reorder.clear }
    deliveredSegments := [] }

/-- `test_clear_pinned_rx_mbufs`, behind the clearing of the scratch. -/
def Engine.clearPinnedRxMbufs (engine : Engine) : Engine :=
  { engine with
    events := { engine.events with q := [] }
    flowTable :=
      { engine.flowTable with slots := engine.flowTable.slots.map (Option.map TcpConn.unpinned) }
    rxRefs := (engine.rxRefs.freeAll (engine.events.q.flatMap InternalEvent.pinned)).freeAll
      engine.flowTable.pinned }

/-- A host with the frames of the burst that wait for their dispatch, those that
are dispatched and not yet freed, and the drained events. -/
structure RxHost where
  host : Host
  burst : List RxChain
  dispatched : List RxChain
  drainedEventsScratch : List InternalEvent

/-- A step of the receive path or of the engine behind it. -/
inductive RxOp where
  | system (op : SystemOp)
  | pollOnce
  | rxBurst (frames : List RxChain)
  | rxFrame (input : Option RxInput)
  | freeFrame
  | clearPinnedRxMbufs

namespace RxHost

/-- A host that has received nothing. -/
def start (cfg : EngineConfig) (maxConnections eventSoftCap : ℕ) : RxHost :=
  { host := Host.start cfg maxConnections eventSoftCap
    burst := []
    dispatched := []
    drainedEventsScratch := [] }

/-- The scratch is cleared. -/
def dropScratch (rx : RxHost) : RxHost :=
  { rx with
    host := { rx.host with engine := rx.host.engine.dropEvents rx.drainedEventsScratch }
    drainedEventsScratch := [] }

/-- A step of the host; drained events go to the scratch, and `Engine::drop`
clears the scratch first. -/
def systemStep (rx : RxHost) : SystemOp → RxHost
  | .drainEvents max =>
      { rx with
        host := rx.host.systemStep (.drainEvents max)
        drainedEventsScratch :=
          rx.drainedEventsScratch ++ (rx.host.engine.events.popMany max).1 }
  | .drop => { rx.dropScratch with host := rx.dropScratch.host.systemStep .drop }
  | op => { rx with host := rx.host.systemStep op }

/-- The dispatch of the next frame of the burst; a frame that is no segment of a
connection is only freed later. -/
def rxFrame (rx : RxHost) (input : Option RxInput) : RxHost :=
  match rx.burst with
  | [] => rx
  | chain :: rest =>
      { rx with
        host :=
          match input with
          | none => rx.host
          | some input =>
              rx.host.step (.segment input.handle input.seg (input.mbufCtx chain) input.env)
        burst := rest
        dispatched := rx.dispatched ++ [chain] }

/-- One step of the receive path. -/
def step (rx : RxHost) : RxOp → RxHost
  | .system op => rx.systemStep op
  | .pollOnce => rx.dropScratch
  | .rxBurst frames =>
      { rx with
        host :=
          { rx.host with engine := rx.host.engine.rxAlloc (frames.flatMap RxChain.addrs) }
        burst := rx.burst ++ frames }
  | .rxFrame input => rx.rxFrame input
  | .freeFrame =>
      match rx.dispatched with
      | [] => rx
      | chain :: rest =>
          { rx with
            host := { rx.host with engine := rx.host.engine.freeChain chain }
            dispatched := rest }
  | .clearPinnedRxMbufs =>
      { rx.dropScratch with
        host :=
          { rx.dropScratch.host with engine := rx.dropScratch.host.engine.clearPinnedRxMbufs } }

end RxHost

end DpdkTcp
