import Mathlib.Data.Option.Basic

/-!
# Services

A service performs operations one after the other, each with a result, and fails where an
operation cannot be performed.  An implementation refines a specification when it performs every
operation that the specification allows, with the same result.
-/

/-- What an operation does and returns, where it can be performed. -/
structure Service (Op Result State : Type) where
  perform : Op → State → Option (State × Result)

namespace Service

variable {Op Result State Spec : Type}

/-- The state after the operations of a list, and their results in order. -/
def run (service : Service Op Result State) : List Op → State → Option (State × List Result)
  | [], state => some (state, [])
  | op :: rest, state =>
      (service.perform op state).bind fun performed =>
        (run service rest performed.1).map fun ran => (ran.1, performed.2 :: ran.2)

variable {service : Service Op Result State}

theorem run_cons_eq_some {op : Op} {rest : List Op} {state last : State}
    {results : List Result} (runs : service.run (op :: rest) state = some (last, results)) :
    ∃ next result later, service.perform op state = some (next, result) ∧
      service.run rest next = some (last, later) ∧ results = result :: later := by
  obtain ⟨⟨next, result⟩, performs, runs⟩ := Option.bind_eq_some_iff.mp runs
  obtain ⟨⟨last', later⟩, ran, same⟩ := Option.map_eq_some_iff.mp runs
  obtain ⟨rfl, rfl⟩ := Prod.mk.inj same
  exact ⟨next, result, later, performs, ran, rfl⟩

theorem run_cons {op : Op} {rest : List Op} {state next last : State} {result : Result}
    {later : List Result} (performs : service.perform op state = some (next, result))
    (runs : service.run rest next = some (last, later)) :
    service.run (op :: rest) state = some (last, result :: later) := by
  rw [run, performs, Option.bind_some, runs, Option.map_some]

/-- What the specification allows, the implementation performs with the same result. -/
def Refines (implementation : Service Op Result State) (spec : Service Op Result Spec)
    (related : State → Spec → Prop) : Prop :=
  ∀ op state abstract later result, related state abstract →
    spec.perform op abstract = some (later, result) →
    ∃ next, implementation.perform op state = some (next, result) ∧ related next later

theorem Refines.run {implementation : Service Op Result State} {spec : Service Op Result Spec}
    {related : State → Spec → Prop} (refines : implementation.Refines spec related)
    {ops : List Op} {state : State} {abstract later : Spec} {results : List Result}
    (initially : related state abstract) (runs : spec.run ops abstract = some (later, results)) :
    ∃ last, implementation.run ops state = some (last, results) ∧ related last later := by
  induction ops generalizing state abstract results with
  | nil =>
      obtain ⟨rfl, rfl⟩ := Prod.mk.inj (Option.some.inj runs)
      exact ⟨state, rfl, initially⟩
  | cons op rest ih =>
      obtain ⟨between, result, results, performs, onward, rfl⟩ := run_cons_eq_some runs
      obtain ⟨next, performed, afterOne⟩ :=
        refines op state abstract between result initially performs
      obtain ⟨last, ran, afterAll⟩ := ih afterOne onward
      exact ⟨last, run_cons performed ran, afterAll⟩

end Service
