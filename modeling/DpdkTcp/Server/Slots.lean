import DpdkTcp.Server.SynAck

/-!
# Listen slots over whole runs

A slot names at most a handshake and a connection that waits to be accepted.
The invariant says what is behind these names. It is kept by every step, unless
the SYN-ACK of a new connection is not transmitted, or a connection is reset or
used before it is accepted: these are the steps after which a slot can be left
with a name that nothing stands behind.
-/

namespace DpdkTcp

/-! ### Slots as a list -/

/-- The address a slot listens at. -/
def ListenSlot.endpoint (slot : ListenSlot) : BitVec 32 × UInt16 :=
  (slot.localIp, slot.localPort)

/-- The connection has the address of the slot. -/
def ListenSlot.Serves (slot : ListenSlot) (tuple : FourTuple) : Prop :=
  tuple.localIp = slot.localIp ∧ tuple.localPort = slot.localPort

/-- The handle is in one of the two places of the slot. -/
def ListenSlot.names (slot : ListenSlot) (handle : ConnHandle) : Bool :=
  slot.inProgress = some handle || slot.acceptQueue = some handle

namespace ListenSlots

variable {slots : ListenSlots} {chosen : ListenHandle × ListenSlot → Bool}
  {change : ListenSlot → ListenSlot} {entry : ListenHandle × ListenSlot}

theorem keys_changeFirst (slots : ListenSlots) (chosen : ListenHandle × ListenSlot → Bool)
    (change : ListenSlot → ListenSlot) :
    (slots.changeFirst chosen change).map Prod.fst = slots.map Prod.fst := by
  induction slots with
  | nil => rfl
  | cons first rest ih =>
      unfold changeFirst
      split
      · rfl
      · rw [List.map_cons, List.map_cons, ih]

theorem endpoints_changeFirst (slots : ListenSlots) (chosen : ListenHandle × ListenSlot → Bool)
    (keeps : ∀ slot, (change slot).endpoint = slot.endpoint) :
    (slots.changeFirst chosen change).map (fun entry => entry.2.endpoint) =
      slots.map fun entry => entry.2.endpoint := by
  induction slots with
  | nil => rfl
  | cons first rest ih =>
      unfold changeFirst
      split
      · rw [List.map_cons, List.map_cons, keeps]
      · rw [List.map_cons, List.map_cons, ih]

/-- Where at most one entry is chosen, it is the one that is changed. -/
theorem changeFirst_eq_map
    (unique : slots.Pairwise fun first second => ¬(chosen first = true ∧ chosen second = true)) :
    slots.changeFirst chosen change =
      slots.map fun entry => if chosen entry then (entry.1, change entry.2) else entry := by
  induction slots with
  | nil => rfl
  | cons first rest ih =>
      rcases List.pairwise_cons.mp unique with ⟨alone, later⟩
      unfold changeFirst
      rw [List.map_cons]
      split
      · rename_i taken
        have others : rest.map (fun entry =>
            if chosen entry then (entry.1, change entry.2) else entry) = rest := by
          refine (List.map_congr_left fun entry member => ?_).trans rest.map_id
          exact if_neg fun again => alone entry member ⟨taken, again⟩
        rw [others]
      · rw [ih later]

theorem unique_of_nodup {Key : Type} {key : ListenHandle × ListenSlot → Key}
    (nodup : (slots.map key).Nodup) (chosen : ListenHandle × ListenSlot → Bool)
    (determined : ∀ first ∈ slots, ∀ second ∈ slots, chosen first = true → chosen second = true →
      key first = key second) :
    slots.Pairwise fun first second => ¬(chosen first = true ∧ chosen second = true) := by
  have distinct : slots.Pairwise fun first second => key first ≠ key second :=
    List.pairwise_map.mp nodup
  refine distinct.imp_of_mem fun {first second} member later differs both => ?_
  exact differs (determined first member second later both.1 both.2)

end ListenSlots

/-! ### What stands behind a name -/

namespace Host

variable {host after : Host} {slot : ListenSlot} {handle : ConnHandle} {id : TimerId}

/-- The timer of a SYN runs for its owner, or waits for its handler. -/
def Ticks (host : Host) (id : TimerId) (handle : ConnHandle) : Prop :=
  host.engine.timerWheel.Runs id handle .synRetrans ∨
    ∃ node, (id, node) ∈ host.pending ∧ node.ownerHandle = handle ∧ node.kind = .synRetrans

/-- A handshake on the slot is under way, and the timer of its SYN-ACK runs. -/
def Opens (host : Host) (slot : ListenSlot) (handle : ConnHandle) : Prop :=
  ∃ conn id, host.engine.flowTable.get handle = some conn ∧ conn.Opening id ∧
    slot.Serves conn.fourTuple ∧
    (FewReuses host.engine.record.armed → host.Ticks id handle)

/-- A connection of the slot waits to be accepted. -/
def Queues (host : Host) (slot : ListenSlot) (handle : ConnHandle) : Prop :=
  ∃ conn, host.engine.flowTable.get handle = some conn ∧ conn.Completed ∧
    slot.Serves conn.fourTuple

/-- What a slot names is there. -/
structure Keeps (host : Host) (slot : ListenSlot) : Prop where
  inProgress : ∀ handle, slot.inProgress = some handle → host.Opens slot handle
  acceptQueue : ∀ handle, slot.acceptQueue = some handle → host.Queues slot handle

theorem Opens.congr {other : ListenSlot} (opens : host.Opens slot handle)
    (same : other.endpoint = slot.endpoint) : host.Opens other handle := by
  rcases opens with ⟨conn, id, present, opening, ⟨ip, port⟩, ticks⟩
  rcases Prod.ext_iff.mp same with ⟨sameIp, samePort⟩
  exact ⟨conn, id, present, opening, ⟨ip.trans sameIp.symm, port.trans samePort.symm⟩, ticks⟩

theorem Queues.congr {other : ListenSlot} (queues : host.Queues slot handle)
    (same : other.endpoint = slot.endpoint) : host.Queues other handle := by
  rcases queues with ⟨conn, present, completed, ip, port⟩
  rcases Prod.ext_iff.mp same with ⟨sameIp, samePort⟩
  exact ⟨conn, present, completed, ip.trans sameIp.symm, port.trans samePort.symm⟩

theorem Opens.not_queues {other : ListenSlot} (opens : host.Opens slot handle)
    (queues : host.Queues other handle) : False := by
  rcases opens with ⟨conn, id, present, opening, _⟩
  rcases queues with ⟨conn', present', completed, _⟩
  cases present.symm.trans present'
  rcases completed.state with state | state <;> rw [opening.state] at state <;> cases state

/-- A step keeps what stands behind the names of these handles. -/
structure Secures (alone : ConnHandle → Prop) (host after : Host) : Prop where
  opens : ∀ slot handle, alone handle → host.Opens slot handle → after.Opens slot handle
  queues : ∀ slot handle, alone handle → host.Queues slot handle → after.Queues slot handle

/-- What a step leaves alone, it secures, if timers that wait for their handler go on to. -/
theorem Secures.of_leaves {alone : ConnHandle → Prop}
    (order : host.engine.InOrder host.pending)
    (leaves : Engine.LeavesAlone host.pending alone host.engine after.engine)
    (waits : ∀ handle id node conn, alone handle →
      host.engine.flowTable.get handle = some conn → conn.Opening id →
      (id, node) ∈ host.pending → node.ownerHandle = handle → node.kind = .synRetrans →
      (id, node) ∈ after.pending) : Secures alone host after := by
  constructor
  · intro slot handle beside opens
    rcases opens with ⟨conn, id, present, opening, serves, ticks⟩
    refine ⟨conn, id, (leaves.same handle beside).trans present, opening, serves, fun few => ?_⟩
    rcases leaves.grows with ⟨more, grown⟩
    have few' : FewReuses host.engine.record.armed := .of_append (grown ▸ few)
    rcases ticks few' with runs | ⟨node, member, owner, kind⟩
    · have spared : host.engine.Spared handle id .synRetrans :=
        order.spared few' present opening.timer runs
      exact .inl (leaves.spares handle id _ beside spared).runs
    · exact .inr ⟨node, waits handle id node conn beside present opening member owner kind,
        owner, kind⟩
  · intro slot handle beside queues
    rcases queues with ⟨conn, present, rest⟩
    exact ⟨conn, (leaves.same handle beside).trans present, rest⟩

/-- The sweep hands timers over to their handlers. -/
theorem secures_advance (host : Host) (nowNs : ℕ) :
    Secures (fun _ => True) host (host.step (.advance nowNs)) := by
  have sheds := host.engine.timerWheel.advance_sheds nowNs
  constructor
  · intro slot handle _ opens
    rcases opens with ⟨conn, id, present, opening, serves, ticks⟩
    refine ⟨conn, id, present, opening, serves, fun few => ?_⟩
    rcases ticks few with runs | ⟨node, member, owner, kind⟩
    · rcases runs.sheds sheds with still | ⟨node, fired, owner, kind⟩
      · exact .inl still
      · exact .inr ⟨node, List.mem_append_right _ fired, owner, kind⟩
    · exact .inr ⟨node, List.mem_append_left _ member, owner, kind⟩
  · exact fun slot handle _ queues => queues

end Host

/-! ### The invariant -/

namespace Server

/-- Some slot names the handle. -/
def named (server : Server) (handle : ConnHandle) : Bool :=
  server.listenSlots.any fun entry => entry.2.names handle

/-- The listen handles are distinct, and those to come are new. -/
structure Keyed (server : Server) : Prop where
  keys : (server.listenSlots.map Prod.fst).Nodup
  fresh : ∀ key ∈ server.listenSlots.map Prod.fst, key < server.nextListenId

namespace Keyed

variable {server after : Server}

theorem of_same (keyed : server.Keyed)
    (keys : after.listenSlots.map Prod.fst = server.listenSlots.map Prod.fst)
    (next : after.nextListenId = server.nextListenId) : after.Keyed := by
  refine ⟨keys ▸ keyed.keys, ?_⟩
  rw [keys, next]
  exact keyed.fresh

theorem listen (keyed : server.Keyed) (ip : BitVec 32) (port : UInt16) :
    (server.listen ip port).1.Keyed := by
  unfold Server.listen
  split
  · exact keyed
  · split
    · exact keyed
    · constructor
      · rw [List.map_append, List.nodup_append]
        refine ⟨keyed.keys, List.nodup_singleton _, ?_⟩
        rintro key known _ new rfl
        have below := keyed.fresh key known
        rw [List.map_singleton, List.mem_singleton] at new
        exact absurd new below.ne
      · intro key known
        dsimp only
        rw [List.map_append, List.mem_append, List.map_singleton, List.mem_singleton] at known
        rcases known with before | rfl
        · exact (keyed.fresh key before).trans (Nat.lt_succ_self _)
        · exact Nat.lt_succ_self _

end Keyed

/-- The invariant of the slots. -/
structure Sound (server : Server) : Prop where
  order : server.host.engine.InOrder server.host.pending
  keys : (server.listenSlots.map Prod.fst).Nodup
  fresh : ∀ key ∈ server.listenSlots.map Prod.fst, key < server.nextListenId
  endpoints : (server.listenSlots.map fun entry => entry.2.endpoint).Nodup
  keeps : ∀ entry ∈ server.listenSlots, server.host.Keeps entry.2
  passive : ∀ handle conn, server.host.engine.flowTable.get handle = some conn →
    conn.state = .synReceived → ∃ entry ∈ server.listenSlots, entry.2.inProgress = some handle

namespace Sound

variable {server after : Server} {handle : ConnHandle}

/-- A handshake is on one slot only. -/
theorem one_slot (sound : server.Sound) (handle : ConnHandle) :
    server.listenSlots.Pairwise fun first second =>
      ¬(decide (first.2.inProgress = some handle) = true ∧
        decide (second.2.inProgress = some handle) = true) := by
  refine ListenSlots.unique_of_nodup sound.endpoints
    (fun entry => decide (entry.2.inProgress = some handle)) ?_
  intro first member second later one two
  rcases (sound.keeps first member).inProgress handle (of_decide_eq_true one) with
    ⟨conn, _, present, _, ⟨ip, port⟩, _⟩
  rcases (sound.keeps second later).inProgress handle (of_decide_eq_true two) with
    ⟨conn', _, present', _, ⟨ip', port'⟩, _⟩
  cases present.symm.trans present'
  exact Prod.ext (ip.symm.trans ip') (port.symm.trans port')

theorem one_key (sound : server.Sound) (listenHandle : ListenHandle) :
    server.listenSlots.Pairwise fun first second =>
      ¬(decide (first.1 = listenHandle) = true ∧ decide (second.1 = listenHandle) = true) := by
  refine ListenSlots.unique_of_nodup sound.keys (fun entry => decide (entry.1 = listenHandle)) ?_
  intro first _ second _ one two
  exact (of_decide_eq_true one).trans (of_decide_eq_true two).symm

/-- A handle a slot names is live. -/
theorem live_of_named (sound : server.Sound) (isNamed : server.named handle = true) :
    ∃ conn, server.host.engine.flowTable.get handle = some conn ∧
      conn.state ≠ .timeWait ∧ conn.state ≠ .synSent := by
  rcases List.any_eq_true.mp isNamed with ⟨entry, member, names⟩
  simp only [ListenSlot.names, Bool.or_eq_true, decide_eq_true_eq] at names
  rcases names with inProgress | acceptQueue
  · rcases (sound.keeps entry member).inProgress handle inProgress with
      ⟨conn, _, present, opening, _⟩
    exact ⟨conn, present, by rw [opening.state]; exact nofun, by rw [opening.state]; exact nofun⟩
  · rcases (sound.keeps entry member).acceptQueue handle acceptQueue with
      ⟨conn, present, completed, _⟩
    exact ⟨conn, present, completed.open'.2.1, completed.open'.1⟩

/-- A step keeps the invariant if every slot names afterwards what it named before
and the step secures, or what the step itself put behind the name. -/
theorem of_secures (sound : server.Sound) (alone : ConnHandle → Prop)
    (secures : Host.Secures alone server.host after.host)
    (order : after.host.engine.InOrder after.host.pending)
    (keys : after.listenSlots.map Prod.fst = server.listenSlots.map Prod.fst)
    (next : after.nextListenId = server.nextListenId)
    (endpoints : (after.listenSlots.map fun entry => entry.2.endpoint) =
      server.listenSlots.map fun entry => entry.2.endpoint)
    (names : ∀ entry' ∈ after.listenSlots, ∃ entry ∈ server.listenSlots,
      entry'.2.endpoint = entry.2.endpoint ∧
      (∀ handle, entry'.2.inProgress = some handle →
        entry.2.inProgress = some handle ∧ alone handle ∨ after.host.Opens entry'.2 handle) ∧
      ∀ handle, entry'.2.acceptQueue = some handle →
        entry.2.acceptQueue = some handle ∧ alone handle ∨ after.host.Queues entry'.2 handle)
    (passive : ∀ handle conn, after.host.engine.flowTable.get handle = some conn →
      conn.state = .synReceived →
      ∃ entry ∈ after.listenSlots, entry.2.inProgress = some handle) : after.Sound := by
  refine ⟨order, keys ▸ sound.keys, ?_, endpoints ▸ sound.endpoints, ?_, passive⟩
  · rw [keys, next]
    exact sound.fresh
  · intro entry' member'
    rcases names entry' member' with ⟨entry, member, same, opens, queues⟩
    have keeps := sound.keeps entry member
    constructor
    · intro handle named
      rcases opens handle named with ⟨before, beside⟩ | new
      · exact (secures.opens entry.2 handle beside (keeps.inProgress handle before)).congr same
      · exact new
    · intro handle named
      rcases queues handle named with ⟨before, beside⟩ | new
      · exact (secures.queues entry.2 handle beside (keeps.acceptQueue handle before)).congr same
      · exact new

/-- A step that leaves the slots as they are, and alone what they name. -/
theorem of_same_slots (sound : server.Sound) (alone : ConnHandle → Prop)
    (secures : Host.Secures alone server.host after.host)
    (order : after.host.engine.InOrder after.host.pending)
    (slots : after.listenSlots = server.listenSlots)
    (next : after.nextListenId = server.nextListenId)
    (names : ∀ entry ∈ server.listenSlots,
      (∀ handle, entry.2.inProgress = some handle →
        alone handle ∨ after.host.Opens entry.2 handle) ∧
      ∀ handle, entry.2.acceptQueue = some handle →
        alone handle ∨ after.host.Queues entry.2 handle)
    (begins : ∀ handle conn', after.host.engine.flowTable.get handle = some conn' →
      conn'.state = .synReceived →
      ∃ conn, server.host.engine.flowTable.get handle = some conn ∧ conn.state = .synReceived) :
    after.Sound := by
  refine sound.of_secures alone secures order (by rw [slots]) next (by rw [slots]) ?_ ?_
  · intro entry member
    rw [slots] at member
    rcases names entry member with ⟨opens, queues⟩
    exact ⟨entry, member, rfl, fun handle named => (opens handle named).imp_left fun beside =>
      ⟨named, beside⟩, fun handle named => (queues handle named).imp_left fun beside =>
        ⟨named, beside⟩⟩
  · intro handle conn' live opening
    rcases begins handle conn' live opening with ⟨conn, present, state⟩
    rw [slots]
    exact sound.passive handle conn present state

end Sound

end Server

end DpdkTcp
