import DpdkTcp.Lib.Run
import Mathlib.Logic.Function.Basic

/-!
# A shared medium

Parties that work on their own and put messages on a medium. A party may take any message
that was ever put there, in any order, any number of times, or never, so messages may be
lost, duplicated, delayed and reordered; the medium may also change a message on the way
(`relays`), and messages may come from outside (`foreign`).

Two rules for all runs: `authentic`, for what is true of every message because every
party only says what is true, and `local_invariant`, for what a party keeps whatever it takes.
-/

namespace Medium

universe u v w x

variable {Place : Type u} {Party : Type v} {Op : Type w} {Message : Type x}

/-- The parties, and all messages that were ever sent. -/
structure State (Place : Type u) (Party : Type v) (Message : Type x) where
  parties : Place → Party
  sent : List Message

variable [DecidableEq Place] (act : Party → Op → Party × List Message)

/-- One party acts. -/
def step (state : State Place Party Message) (label : Place × Op) : State Place Party Message :=
  { parties := Function.update state.parties label.1 (act (state.parties label.1) label.2).1
    sent := state.sent ++ (act (state.parties label.1) label.2).2 }

variable {act} in
theorem mem_sent_step {state : State Place Party Message} {place : Place} {op : Op}
    {message : Message} (saying : message ∈ (act (state.parties place) op).2) :
    message ∈ (step act state (place, op)).sent :=
  List.mem_append_right _ saying

theorem parties_step (state : State Place Party Message) (place : Place) (op : Op) :
    (step act state (place, op)).parties place = (act (state.parties place) op).1 :=
  Function.update_self _ _ _

/-- What an operation takes was sent, and relayed by the medium, or comes from outside. -/
def Heard (takes : Op → Option Message) (relays : Message → Message → Prop)
    (foreign : Message → Prop) (state : State Place Party Message) (label : Place × Op) : Prop :=
  ∀ message, takes label.2 = some message →
    (∃ original ∈ state.sent, relays original message) ∨ foreign message

section Runs

variable {act} {takes : Op → Option Message} {relays : Message → Message → Prop}
  {foreign : Message → Prop} {admissible : State Place Party Message → Place × Op → Prop}
  {start stop : State Place Party Message}

/-- What was sent stays on the medium. -/
theorem sent_subset (run : Run.Reaches (step act) admissible start stop) :
    start.sent ⊆ stop.sent := by
  apply run.invariant (List.Subset.refl _)
  exact fun state label inside _ message sent => List.mem_append_left _ (inside sent)

/-- What each party keeps whatever it takes. -/
theorem local_invariant (Inv : Place → Party → Prop)
    (run : Run.Reaches (step act) admissible start stop)
    (initially : ∀ place, Inv place (start.parties place))
    (kept : ∀ place party op, Inv place party → Inv place (act party op).1) (place : Place) :
    Inv place (stop.parties place) := by
  have all : ∀ place, Inv place (stop.parties place) := by
    apply run.invariant initially
    intro state label before _ place
    dsimp only [step]
    by_cases here : place = label.1
    · subst here
      rw [Function.update_self]
      exact kept _ _ _ (before _)
    · rw [Function.update_of_ne here]
      exact before place
  exact all place

/-- Where every party, as long as it has taken only true messages, sends only true ones, all
messages are true and every party keeps what it keeps under true messages. -/
theorem authentic {Inv : Place → Party → Prop} {Honest : Message → Prop}
    (run : Run.Reaches (step act) (Heard takes relays foreign) start stop)
    (initially : ∀ place, Inv place (start.parties place))
    (honest : ∀ message ∈ start.sent, Honest message)
    (outside : ∀ message, foreign message → Honest message)
    (relayed : ∀ original message, Honest original → relays original message → Honest message)
    (kept : ∀ place party op, Inv place party →
      (∀ message, takes op = some message → Honest message) →
      Inv place (act party op).1 ∧ ∀ message ∈ (act party op).2, Honest message) :
    (∀ place, Inv place (stop.parties place)) ∧ ∀ message ∈ stop.sent, Honest message := by
  refine @Run.Reaches.invariant _ _ _ _ (fun state : State Place Party Message =>
    (∀ place, Inv place (state.parties place)) ∧ ∀ message ∈ state.sent, Honest message)
    _ _ run ⟨initially, honest⟩ ?_
  rintro state ⟨place, op⟩ ⟨invs, said⟩ heard
  have truths : ∀ message, takes op = some message → Honest message := by
    intro message taken
    rcases heard message taken with ⟨original, sent, relay⟩ | alien
    · exact relayed original message (said original sent) relay
    · exact outside message alien
  rcases kept place (state.parties place) op (invs place) truths with ⟨after, saying⟩
  refine ⟨fun other => ?_, fun message sent => ?_⟩
  · dsimp only [step]
    by_cases here : other = place
    · subst here
      rw [Function.update_self]
      exact after
    · rw [Function.update_of_ne here]
      exact invs other
  · rcases List.mem_append.mp sent with old | new
    · exact said message old
    · exact saying message new

end Runs

end Medium
