import DpdkTcp.Lifecycle.Tell

/-!
# The story of a connection

What the application is told about one connection, from `connect` on. Every call
adds one chapter to it: nothing, the end of the handshake, data, a change of
state, or the end of the connection.
-/

namespace DpdkTcp

namespace InternalEvent

/-- The events about the life and the data of the connection a handle stands for. -/
def lifecycleOf (handle : ConnHandle) : InternalEvent → Bool
  | .connected conn .. => conn == handle
  | .readable conn .. => conn == handle
  | .closed conn .. => conn == handle
  | .stateChange conn .. => conn == handle
  | _ => false

/-- The event tells that a connection is open. -/
def isConnected : InternalEvent → Bool
  | .connected .. => true
  | _ => false

/-- The event tells that a connection is over. -/
def isClosed : InternalEvent → Bool
  | .closed .. => true
  | _ => false

/-- The two states of a `StateChange`. -/
def change : InternalEvent → Option (TcpState × TcpState)
  | .stateChange _ before after _ => some (before, after)
  | _ => none

end InternalEvent

/-- State changes that lead from one state to another, each beginning where the last one ended. -/
def Chained : TcpState → List (TcpState × TcpState) → TcpState → Prop
  | start, [], stop => start = stop
  | start, (before, after) :: rest, stop => before = start ∧ Chained after rest stop

theorem Chained.append {start middle stop : TcpState} {changes later : List (TcpState × TcpState)}
    (first : Chained start changes middle) (second : Chained middle later stop) :
    Chained start (changes ++ later) stop := by
  induction changes generalizing start with
  | nil =>
      rcases first with rfl
      exact second
  | cons change rest ih =>
      rcases first with ⟨same, first⟩
      exact ⟨same, ih first⟩

/-- What may be told of a connection that is now in the state `slot`, or has left the table. -/
structure Orderly (told : List InternalEvent) (slot : Option TcpState) : Prop where
  chained : Chained .closed (told.filterMap InternalEvent.change) (slot.getD .closed)
  connectedOnce : told.countP InternalEvent.isConnected ≤ 1
  connectedFirst : ∀ part, part <+: told → part.any InternalEvent.isReadable = true →
    part.any InternalEvent.isConnected = true
  closedOnce : told.countP InternalEvent.isClosed = if slot = none then 1 else 0
  closedLast : slot = none → ∃ before event, told = before ++ [event] ∧
    event.isClosed = true ∧ ∃ change ∈ before.filterMap InternalEvent.change, change.2 = .closed

/-- One chapter: the state before, what is told, and the state after. -/
inductive Told (handle : ConnHandle) :
    Option TcpState → List InternalEvent → Option TcpState → Prop where
  | silent (slot : Option TcpState) : Told handle slot [] slot
  | established (changeNs rxHwTsNs nowNs : ℕ) :
      Told handle (some .synSent)
        [.stateChange handle .synSent .established changeNs, .connected handle rxHwTsNs nowNs]
        (some .established)
  | readable (event : InternalEvent) (data : event.isReadable = true) :
      Told handle (some .established) [event] (some .established)
  | moved {state next : TcpState} (opened : state ≠ .synSent) (alive : next ≠ .closed)
      (onward : next ≠ .synSent) (nowNs : ℕ) :
      Told handle (some state) [.stateChange handle state next nowNs] (some next)
  | movedReadable {next : TcpState} (alive : next ≠ .closed) (onward : next ≠ .synSent)
      (nowNs : ℕ) (event : InternalEvent) (data : event.isReadable = true) :
      Told handle (some .established) [.stateChange handle .established next nowNs, event]
        (some next)
  | ended (state : TcpState) (err : Int) (changeNs nowNs : ℕ) :
      Told handle (some state)
        [.stateChange handle state .closed changeNs, .closed handle err nowNs] none

/-- An orderly story that also says whether the handshake is over. -/
structure Story (told : List InternalEvent) (slot : Option TcpState) : Prop extends
    Orderly told slot where
  alive : slot ≠ some .closed
  handshake : slot = some .synSent → told.any InternalEvent.isConnected = false
  connected : ∀ state, slot = some state → state ≠ .synSent →
    told.any InternalEvent.isConnected = true

namespace Story

variable {told : List InternalEvent} {slot : Option TcpState} {state : TcpState}
  {handle : ConnHandle}

/-- The first chapter. -/
theorem opened (handle : ConnHandle) (nowNs : ℕ) :
    Story [.stateChange handle .closed .synSent nowNs] (some .synSent) := by
  refine ⟨⟨⟨rfl, rfl⟩, Nat.zero_le _, ?_, rfl, nofun⟩, nofun, fun _ => rfl, ?_⟩
  · intro part before readable
    rcases List.prefix_cons_iff.mp before with rfl | ⟨rest, rfl, empty⟩
    · cases readable
    · rw [List.prefix_nil.mp empty] at readable
      cases readable
  · rintro state same opened
    exact absurd (Option.some.inj same).symm opened

/-- Events that are no data keep data behind `Connected`. -/
theorem connectedFirst_append {news : List InternalEvent}
    (first : ∀ part, part <+: told → part.any InternalEvent.isReadable = true →
      part.any InternalEvent.isConnected = true)
    (connected : told.any InternalEvent.isConnected = true ∨
      news.any InternalEvent.isReadable = false) :
    ∀ part, part <+: told ++ news → part.any InternalEvent.isReadable = true →
      part.any InternalEvent.isConnected = true := by
  intro part before readable
  rcases before with ⟨rest, split⟩
  rcases List.append_eq_append_iff.mp split with ⟨more, whole, _⟩ | ⟨more, rfl, later⟩
  · exact first part ⟨more, whole.symm⟩ readable
  · rw [List.any_append, Bool.or_eq_true]
    rcases connected with connected | silent
    · exact Or.inl connected
    · left
      rw [List.any_append, Bool.or_eq_true] at readable
      rcases readable with early | late
      · exact first told (List.prefix_refl told) early
      · rw [later, List.any_append, Bool.or_eq_false_iff] at silent
        rw [silent.1] at late
        cases late

/-- A story goes on in order if what is added is in order by itself. -/
theorem extend {news : List InternalEvent} {next : Option TcpState}
    (orderly : Orderly told (some state))
    (chained : Chained state (news.filterMap InternalEvent.change) (next.getD .closed))
    (once : news.countP InternalEvent.isConnected ≤ 1)
    (apart : told.any InternalEvent.isConnected = false ∨
      news.any InternalEvent.isConnected = false)
    (first : told.any InternalEvent.isConnected = true ∨
      news.any InternalEvent.isReadable = false)
    (closed : news.countP InternalEvent.isClosed = if next = none then 1 else 0)
    (last : next = none → ∃ before event, news = before ++ [event] ∧
      event.isClosed = true ∧ ∃ change ∈ before.filterMap InternalEvent.change,
        change.2 = .closed) :
    Orderly (told ++ news) next := by
  refine ⟨?_, ?_, connectedFirst_append orderly.connectedFirst first, ?_, ?_⟩
  · rw [List.filterMap_append]
    exact orderly.chained.append chained
  · have never : ∀ {events : List InternalEvent}, events.any InternalEvent.isConnected = false →
        events.countP InternalEvent.isConnected = 0 := by
      intro events none
      rw [List.countP_eq_zero]
      simpa using none
    rw [List.countP_append]
    rcases apart with none | none
    · rw [never none, Nat.zero_add]
      exact once
    · rw [never none, Nat.add_zero]
      exact orderly.connectedOnce
  · rw [List.countP_append, orderly.closedOnce, closed, if_neg nofun, Nat.zero_add]
  · intro gone
    rcases last gone with ⟨before, event, rfl, ends, change, member, target⟩
    refine ⟨told ++ before, event, (List.append_assoc ..).symm, ends, change, ?_, target⟩
    rw [List.filterMap_append]
    exact List.mem_append_right _ member

theorem any_append_left {news : List InternalEvent}
    (connected : told.any InternalEvent.isConnected = true) :
    (told ++ news).any InternalEvent.isConnected = true := by
  rw [List.any_append, connected, Bool.true_or]

/-- Every chapter keeps the story orderly. -/
theorem tell {news : List InternalEvent} {next : Option TcpState} (story : Story told slot)
    (chapter : Told handle slot news next) : Story (told ++ news) next := by
  cases chapter with
  | silent slot => rwa [List.append_nil]
  | established changeNs rxHwTsNs nowNs =>
      refine ⟨extend story.toOrderly ⟨rfl, rfl⟩ (Nat.le_refl 1) (Or.inl (story.handshake rfl))
        (Or.inr rfl) rfl nofun, nofun, nofun, ?_⟩
      intro state _ _
      rw [List.any_append]
      exact Bool.or_true _
  | readable event data =>
      have connected := story.connected .established rfl nofun
      cases event with
      | readable =>
          exact ⟨extend story.toOrderly rfl (Nat.zero_le 1) (Or.inr rfl) (Or.inl connected) rfl nofun,
            nofun, nofun, fun _ _ _ => any_append_left connected⟩
      | _ => cases data
  | moved opened alive onward nowNs =>
      have connected := story.connected _ rfl opened
      exact ⟨extend story.toOrderly ⟨rfl, rfl⟩ (Nat.zero_le 1) (Or.inr rfl) (Or.inr rfl) rfl nofun,
        fun closed => alive (Option.some.inj closed), fun opening => absurd (Option.some.inj opening) onward,
        fun _ _ _ => any_append_left connected⟩
  | movedReadable alive onward nowNs event data =>
      have connected := story.connected .established rfl nofun
      cases event with
      | readable =>
          exact ⟨extend story.toOrderly ⟨rfl, rfl⟩ (Nat.zero_le 1) (Or.inr rfl) (Or.inl connected)
            rfl nofun, fun closed => alive (Option.some.inj closed),
            fun opening => absurd (Option.some.inj opening) onward,
            fun _ _ _ => any_append_left connected⟩
      | _ => cases data
  | ended state err changeNs nowNs =>
      refine ⟨extend story.toOrderly ⟨rfl, rfl⟩ (Nat.zero_le 1) (Or.inr rfl) (Or.inr rfl) rfl ?_,
        nofun, nofun, nofun⟩
      intro _
      exact ⟨[_], _, rfl, rfl, _, List.mem_singleton_self _, rfl⟩

end Story

end DpdkTcp
