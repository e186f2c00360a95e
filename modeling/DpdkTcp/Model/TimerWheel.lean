import DpdkTcp.Model.Wire

/-!
# The timer wheel

`tcp_timer_wheel.rs`: eight levels of 256 buckets with a resolution of one
tick. Slots are recycled through a free list and carry a generation, so that
an identifier of an earlier occupant never matches a later one. The bucket
array is a function of level and index, and the free list is a stack with its
top in front.
-/

namespace DpdkTcp

/-- The length of a tick. -/
def TICK_NS : ℕ := 10000

/-- The number of levels of the wheel. -/
def LEVELS : ℕ := 8

/-- The number of buckets of a level. -/
def BUCKETS : ℕ := 256

/-- The slot of a timer and how often the slot was used. -/
structure TimerId where
  slot : ℕ
  generation : BitVec 32
deriving DecidableEq, Repr

/-- What a timer is for. -/
inductive TimerKind where
  | rto
  | tlp
  | synRetrans
  | apiPublic
deriving DecidableEq, Repr

/-- A timer on the wheel. -/
structure TimerNode where
  fireAtNs : ℕ
  ownerHandle : ℕ
  kind : TimerKind
  userData : ℕ
  generation : BitVec 32
  cancelled : Bool
deriving DecidableEq, Repr

/-- A function changed at one point. -/
def updateAt {Value : Type} (table : ℕ → Value) (index : ℕ) (value : Value) : ℕ → Value :=
  fun key => if key = index then value else table key

/-- The wheel: slots with generations, and buckets that hold slots. -/
structure TimerWheel where
  slots : List (Option TimerNode)
  generations : List (BitVec 32)
  freeList : List ℕ
  buckets : ℕ → ℕ → List ℕ
  cursors : ℕ → ℕ
  lastTick : ℕ
  drainScratch : List ℕ

/-- `level_and_bucket_offset`, from a given level on. -/
def levelAndBucketOffsetFrom (delayTicks : ℕ) : (levelsLeft level : ℕ) → ℕ × ℕ
  | 0, _ => (LEVELS - 1, BUCKETS - 1)
  | levelsLeft + 1, level =>
      if delayTicks < 2 ^ (8 * (level + 1)) then
        (level, max 1 (min (delayTicks / 2 ^ (8 * level)) (BUCKETS - 1)))
      else levelAndBucketOffsetFrom delayTicks levelsLeft (level + 1)

/-- `level_and_bucket_offset`: the lowest level that reaches the delay, and how far ahead of its
cursor. -/
def levelAndBucketOffset (delayTicks : ℕ) : ℕ × ℕ :=
  levelAndBucketOffsetFrom delayTicks LEVELS 0

namespace TimerWheel

/-- A wheel without timers at tick zero. -/
def new : TimerWheel :=
  { slots := []
    generations := []
    freeList := []
    buckets := fun _ _ => []
    cursors := fun _ => 0
    lastTick := 0
    drainScratch := [] }

/-- The occupant of a slot. -/
def nodeAt (wheel : TimerWheel) (slot : ℕ) : Option TimerNode :=
  (wheel.slots.getD slot none)

/-- Another content of a bucket. -/
def setBucket (wheel : TimerWheel) (level index : ℕ) (bucket : List ℕ) : TimerWheel :=
  { wheel with
    buckets := updateAt wheel.buckets level (updateAt (wheel.buckets level) index bucket) }

/-- A slot joins a bucket at its end. -/
def pushBucket (wheel : TimerWheel) (level index slot : ℕ) : TimerWheel :=
  wheel.setBucket level index (wheel.buckets level index ++ [slot])

/-- Empty a slot and put it on the free list. -/
def freeSlot (wheel : TimerWheel) (slot : ℕ) : TimerWheel :=
  { wheel with
    slots := wheel.slots.set slot none
    freeList := slot :: wheel.freeList }

/-- The slot `add` takes: the top of the free list, with its generation
bumped, or a new one. -/
def takeSlot (wheel : TimerWheel) : TimerWheel × ℕ :=
  match wheel.freeList with
  | slot :: rest =>
      ({ wheel with
          freeList := rest
          generations := wheel.generations.set slot (wheel.generations.getD slot 0#32 + 1#32) },
        slot)
  | [] =>
      ({ wheel with
          slots := wheel.slots ++ [none]
          generations := wheel.generations ++ [0#32] },
        wheel.slots.length)

/-- `add`, with the identifier it returns. -/
def add (wheel : TimerWheel) (nowNs : ℕ) (node : TimerNode) : TimerWheel × TimerId :=
  let delayTicks := (node.fireAtNs - nowNs) / TICK_NS
  let place := levelAndBucketOffset delayTicks
  let bucketIdx := (wheel.cursors place.1 + place.2) % BUCKETS
  let taken := wheel.takeSlot
  let generation := taken.1.generations.getD taken.2 0#32
  let occupied : TimerWheel :=
    { taken.1 with
      slots := taken.1.slots.set taken.2
        (some { node with generation := generation, cancelled := false }) }
  (occupied.pushBucket place.1 bucketIdx taken.2, { slot := taken.2, generation := generation })

/-- Whether an identifier names a timer that can still fire. -/
def isLive (wheel : TimerWheel) (id : TimerId) : Bool :=
  match wheel.nodeAt id.slot with
  | some node => node.generation == id.generation && !node.cancelled
  | none => false

/-- `cancel`: mark a live timer; its slot is recycled when its bucket is swept. -/
def cancel (wheel : TimerWheel) (id : TimerId) : TimerWheel :=
  match wheel.nodeAt id.slot with
  | some node =>
      if node.generation == id.generation && !node.cancelled then
        { wheel with slots := wheel.slots.set id.slot (some { node with cancelled := true }) }
      else wheel
  | none => wheel

/-- A wheel together with the timers fired so far. -/
structure Swept where
  wheel : TimerWheel
  fired : List (TimerId × TimerNode)

/-- Sweep the slots of the current bucket of level zero. -/
def sweep : List ℕ → Swept → Swept
  | [], swept => swept
  | slot :: rest, swept =>
      match swept.wheel.nodeAt slot with
      | some node =>
          sweep rest
            { wheel := swept.wheel.freeSlot slot
              fired :=
                if node.cancelled then swept.fired
                else swept.fired ++ [(⟨slot, node.generation⟩, node)] }
      | none => sweep rest swept

/-- Move the slots of a cascading bucket down to their new buckets. -/
def replace (nowNs : ℕ) : List ℕ → TimerWheel → TimerWheel
  | [], wheel => wheel
  | slot :: rest, wheel =>
      match wheel.nodeAt slot with
      | some node =>
          if node.cancelled then replace nowNs rest (wheel.freeSlot slot)
          else
            let place := levelAndBucketOffset ((node.fireAtNs - nowNs) / TICK_NS)
            let newBucket := (wheel.cursors place.1 + place.2) % BUCKETS
            replace nowNs rest (wheel.pushBucket place.1 newBucket slot)
      | none => replace nowNs rest wheel

/-- `cascade`, for at most `levelsLeft` levels from `level` up. -/
def cascade : (levelsLeft level : ℕ) → TimerWheel → TimerWheel
  | 0, _, wheel => wheel
  | levelsLeft + 1, level, wheel =>
      let cursor := (wheel.cursors level + 1) % BUCKETS
      let nowNs := wheel.lastTick * TICK_NS
      let moved := { wheel with cursors := updateAt wheel.cursors level cursor }
      let draining := moved.buckets level cursor
      let swapped := moved.setBucket level cursor moved.drainScratch
      let replaced := replace nowNs draining swapped
      let restored :=
        { replaced.setBucket level cursor [] with
          drainScratch := replaced.buckets level cursor }
      if cursor = 0 then cascade levelsLeft (level + 1) restored else restored

/-- One tick of `advance`. -/
def tick (swept : Swept) : Swept :=
  let wheel := swept.wheel
  let cursor := (wheel.cursors 0 + 1) % BUCKETS
  let ticked :=
    { wheel with
      cursors := updateAt wheel.cursors 0 cursor
      lastTick := wheel.lastTick + 1 }
  let drained := sweep (ticked.buckets 0 cursor) { swept with wheel := ticked }
  let cleared := drained.wheel.setBucket 0 cursor []
  { drained with wheel := if cursor = 0 then cascade (LEVELS - 1) 1 cleared else cleared }

/-- The loop of `advance` over the ticks that passed. -/
def ticks : ℕ → Swept → Swept
  | 0, swept => swept
  | count + 1, swept => ticks count (tick swept)

/-- `advance`: sweep up to the current tick, at most `BUCKETS * LEVELS` ticks a call. -/
def advance (wheel : TimerWheel) (nowNs : ℕ) : Swept :=
  let nowTick := nowNs / TICK_NS
  if nowTick ≤ wheel.lastTick then { wheel := wheel, fired := [] }
  else ticks (min (nowTick - wheel.lastTick) (BUCKETS * LEVELS)) { wheel := wheel, fired := [] }

end TimerWheel

end DpdkTcp
