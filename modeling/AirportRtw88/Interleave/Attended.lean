import AirportRtw88.Interleave.Prog

/-!
# Programs and what they ask for

A program that is left alone acts on its surroundings by its requests, as far as their answers
say that they were carried out.  The file runs a program together with a model of the
surroundings.
-/

namespace Interleave

variable {σ κ ρ α β δ : Type}

/-- What a program leaves behind: the shared state, the surroundings, its value, and the answers
that it did not use. -/
structure Attended (σ ρ δ α : Type) where
  state : σ
  world : δ
  value : α
  answers : List ρ

namespace Prog

variable [Inhabited ρ] (respond : κ → ρ → δ → δ)

/-- Run a program to its end; an answered request acts on the surroundings. -/
def attended : Prog σ κ ρ α → σ → δ → List ρ → Attended σ ρ δ α
  | .ret value, state, world, answers => ⟨state, world, value, answers⟩
  | .read next, state, world, answers => (next state).attended state world answers
  | .write state next, _, world, answers => next.attended state world answers
  | .ask next, state, world, answers =>
      (next (answers.headD default)).attended state world answers.tail
  | .call request next, state, world, answers =>
      (next (answers.headD default)).attended state
        (respond request (answers.headD default) world) answers.tail

/-- The run of a sequence is the run of its parts. -/
theorem attended_bind (program : Prog σ κ ρ α) (rest : α → Prog σ κ ρ β) (state : σ) (world : δ)
    (answers : List ρ) :
    (program.bind rest).attended respond state world answers =
      (rest (program.attended respond state world answers).value).attended respond
        (program.attended respond state world answers).state
        (program.attended respond state world answers).world
        (program.attended respond state world answers).answers := by
  induction program generalizing state world answers with
  | ret value => rfl
  | read next ih => exact ih state state world answers
  | write written next ih => exact ih written world answers
  | ask next ih => exact ih (answers.headD default) state world answers.tail
  | call request next ih => exact ih (answers.headD default) state _ answers.tail

/-- What every answered request keeps, a run keeps. -/
theorem attended_keeps (keeps : δ → δ → Prop) (refl : ∀ world, keeps world world)
    (trans : ∀ {first second third}, keeps first second → keeps second third → keeps first third)
    (step : ∀ request answer world, keeps world (respond request answer world))
    (program : Prog σ κ ρ α) (state : σ) (world : δ) (answers : List ρ) :
    keeps world (program.attended respond state world answers).world := by
  induction program generalizing state world answers with
  | ret value => exact refl world
  | read next ih => exact ih state state world answers
  | write written next ih => exact ih written world answers
  | ask next ih => exact ih (answers.headD default) state world answers.tail
  | call request next ih =>
      exact trans (step request (answers.headD default) world)
        (ih (answers.headD default) state _ answers.tail)

end Prog

end Interleave
