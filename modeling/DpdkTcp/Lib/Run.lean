import Mathlib.Algebra.Order.Ring.Int
import Mathlib.Logic.Relation
import Mathlib.Tactic.Common

/-!
# Runs of a labelled system

A system is given by a total step function on states and labels. The predicate
`Reaches` collects the states reached by finite runs whose labels are all
admissible in the state where they are taken, and `Reaches.invariant` is the
induction rule every safety theorem uses.
-/

namespace Run

universe u v

variable {State : Type u} {Label : Type v} {step : State → Label → State}
  {admissible : State → Label → Prop}

/-- The states reached from `start` by taking admissible labels. -/
inductive Reaches (step : State → Label → State) (admissible : State → Label → Prop)
    (start : State) : State → Prop where
  | refl : Reaches step admissible start start
  | tail {state : State} (label : Label) (run : Reaches step admissible start state)
      (taken : admissible state label) : Reaches step admissible start (step state label)

/-- What holds initially and is kept by every admissible step holds in every state reached. -/
theorem Reaches.invariant {Inv : State → Prop} {start stop : State}
    (run : Reaches step admissible start stop) (initial : Inv start)
    (kept : ∀ state label, Inv state → admissible state label → Inv (step state label)) :
    Inv stop := by
  induction run with
  | refl => exact initial
  | tail label _ taken ih => exact kept _ label ih taken

/-- A run from where another run stopped. -/
theorem Reaches.trans {start middle stop : State} (first : Reaches step admissible start middle)
    (second : Reaches step admissible middle stop) : Reaches step admissible start stop := by
  induction second with
  | refl => exact first
  | tail label _ taken ih => exact .tail label ih taken

/-- A run under a stronger admissibility condition is a run under a weaker one. -/
theorem Reaches.mono {weaker : State → Label → Prop} {start stop : State}
    (run : Reaches step admissible start stop)
    (implies : ∀ state label, admissible state label → weaker state label) :
    Reaches step weaker start stop := by
  induction run with
  | refl => exact .refl
  | tail label _ taken ih => exact .tail label ih (implies _ label taken)

/-- Where every label is admissible, any list of labels is a run. -/
theorem Reaches.foldl (labels : List Label) (start : State) :
    Reaches step (fun _ _ => True) start (labels.foldl step start) := by
  have extend : ∀ (labels : List Label) (state : State),
      Reaches step (fun _ _ => True) start state →
      Reaches step (fun _ _ => True) start (labels.foldl step state) := by
    intro labels
    induction labels with
    | nil => exact fun _ run => run
    | cons label rest ih => exact fun state run => ih _ (run.tail label trivial)
  exact extend labels start .refl

/-- Every label of a list is admissible where it is taken. -/
def admits (step : State → Label → State) (admissible : State → Label → Bool) :
    State → List Label → Bool
  | _, [] => true
  | state, label :: rest => admissible state label && admits step admissible (step state label) rest

/-- A list of admissible labels is a run. -/
theorem Reaches.of_admits {admissible : State → Label → Bool} {start : State}
    {labels : List Label} (admitted : admits step admissible start labels = true) :
    Reaches step (fun state label => admissible state label = true) start
      (labels.foldl step start) := by
  have extend : ∀ (labels : List Label) (state : State),
      Reaches step (fun state label => admissible state label = true) start state →
      admits step admissible state labels = true →
      Reaches step (fun state label => admissible state label = true) start
        (labels.foldl step state) := by
    intro labels
    induction labels with
    | nil => exact fun state run _ => run
    | cons label rest ih =>
        intro state run admitted
        rcases Bool.and_eq_true_iff.mp admitted with ⟨taken, later⟩
        exact ih (step state label) (run.tail label taken) later
  exact extend labels start .refl admitted

end Run
