import Mathlib.Logic.Relation

/-!
# Machines

A machine takes one labelled step at a time, whichever of its parties the label
belongs to.  The file defines its runs, the rules for their invariants and for
the simulation of one machine by another, and concrete runs.
-/

namespace Interleave

open Relation

/-- A machine: what a step with a label does in a state in which it can be taken. -/
structure Machine (Label State : Type) where
  step : Label → State → Option State

namespace Machine

variable {Label State : Type}

section

variable (machine : Machine Label State) (allows : Label → State → Prop)

/-- A step that is allowed where it is taken. -/
def Steps (before after : State) : Prop :=
  ∃ label, allows label before ∧ machine.step label before = some after

/-- A run of allowed steps. -/
def Reaches : State → State → Prop :=
  ReflTransGen (machine.Steps allows)

/-- The state after the steps of a list, if they can all be taken. -/
def play : List Label → State → Option State
  | [], state => some state
  | label :: rest, state => (machine.step label state).bind (play rest)

/-- A property of all states of a run. -/
def Along (holds : State → Prop) : List Label → State → Prop
  | [], state => holds state
  | label :: rest, state =>
      holds state ∧ ∀ next, machine.step label state = some next → Along holds rest next

/-- A run takes its steps only where they are allowed. -/
def Keeps : List Label → State → Prop
  | [], _ => True
  | label :: rest, state =>
      allows label state ∧ ∀ next, machine.step label state = some next → Keeps rest next

end

/-- Every step is allowed. -/
def free (_ : Label) (_ : State) : Prop := True

variable {machine : Machine Label State} {allows : Label → State → Prop} {first last : State}

/-- The rule for invariants of runs. -/
theorem Reaches.keeps (run : machine.Reaches allows first last) (holds : State → Prop)
    (kept : ∀ label before after, allows label before →
      machine.step label before = some after → holds before → holds after)
    (initially : holds first) : holds last := by
  induction run with
  | refl => exact initially
  | tail _ last ih =>
      obtain ⟨label, allowed, step⟩ := last
      exact kept label _ _ allowed step ih

/-- A concrete run without conditions. -/
theorem reaches_of_play (labels : List Label) (plays : machine.play labels first = some last) :
    machine.Reaches free first last := by
  induction labels generalizing first with
  | nil =>
      cases plays
      exact .refl
  | cons label rest ih =>
      obtain ⟨between, step, plays⟩ := Option.bind_eq_some_iff.mp plays
      exact .head ⟨label, trivial, step⟩ (ih plays)

/-- A property of all states of a run holds where the run ends. -/
theorem Along.of_play {holds : State → Prop} {labels : List Label}
    (along : machine.Along holds labels first) (plays : machine.play labels first = some last) :
    holds last := by
  induction labels generalizing first with
  | nil =>
      cases plays
      exact along
  | cons label rest ih =>
      obtain ⟨between, step, plays⟩ := Option.bind_eq_some_iff.mp plays
      exact ih (along.2 between step) plays

/-- The rule for the exact condition of a property of runs: an invariant gives the property and
is kept by the steps that are allowed, and any other step can be taken and loses the property. -/
theorem along_iff_keeps {holds invariant : State → Prop}
    (gives : ∀ state, invariant state → holds state)
    (kept : ∀ label before after, invariant before → allows label before →
      machine.step label before = some after → invariant after)
    (lost : ∀ label before, invariant before → ¬ allows label before →
      ∃ after, machine.step label before = some after ∧ ¬ holds after)
    (labels : List Label) (initially : invariant first) :
    machine.Along holds labels first ↔ machine.Keeps allows labels first := by
  induction labels generalizing first with
  | nil => exact iff_of_true (gives first initially) trivial
  | cons label rest ih =>
      by_cases allowed : allows label first
      · constructor
        · rintro ⟨-, later⟩
          exact ⟨allowed, fun next step =>
            (ih (kept label first next initially allowed step)).mp (later next step)⟩
        · rintro ⟨-, later⟩
          exact ⟨gives first initially, fun next step =>
            (ih (kept label first next initially allowed step)).mpr (later next step)⟩
      · obtain ⟨next, step, bad⟩ := lost label first initially allowed
        apply iff_of_false
        · rintro ⟨-, later⟩
          apply bad
          cases rest with
          | nil => exact later next step
          | cons _ _ => exact (later next step).1
        · rintro ⟨good, -⟩
          exact allowed good

end Machine

end Interleave
