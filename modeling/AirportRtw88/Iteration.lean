import Mathlib.Data.List.Induction

/-!
# Iterations

What the steps of a list keep, what the last of them that writes leaves behind, and how they are
undone by the steps back in the opposite order.
-/

namespace Iteration

variable {σ α : Type}

/-- What every step keeps holds at the end. -/
theorem foldl_keeps (valid : σ → Prop) {step : σ → α → σ} (steps : List α)
    (keeps : ∀ state, ∀ x ∈ steps, valid state → valid (step state x)) {state : σ}
    (start : valid state) : valid (steps.foldl step state) := by
  induction steps generalizing state with
  | nil => exact start
  | cons x rest ih =>
      apply ih
      · exact fun state y member => keeps state y (List.mem_cons_of_mem x member)
      · exact keeps state x List.mem_cons_self start

/-- Every step is undone by its step back, hence all of them are, from the last one on. -/
theorem foldl_reverse_undo (valid : σ → Prop) {step back : σ → α → σ} (steps : List α)
    (keeps : ∀ state, ∀ x ∈ steps, valid state → valid (step state x))
    (undo : ∀ state, ∀ x ∈ steps, valid state → back (step state x) x = state) {state : σ}
    (start : valid state) : steps.reverse.foldl back (steps.foldl step state) = state := by
  induction steps generalizing state with
  | nil => rfl
  | cons x rest ih =>
      have later := ih (fun state y member => keeps state y (List.mem_cons_of_mem x member))
        (fun state y member => undo state y (List.mem_cons_of_mem x member))
        (keeps state x List.mem_cons_self start)
      rw [List.foldl_cons, List.reverse_cons, List.foldl_append, later]
      exact undo state x List.mem_cons_self start

/-- A component that some steps overwrite and the others leave alone is what the last of them
wrote. -/
theorem foldl_last {β : Type} {step : σ → α → σ} (read : σ → β) {written : α → Option β}
    (next : ∀ state x, read (step state x) = (written x).getD (read state)) (steps : List α)
    (state : σ) :
    read (steps.foldl step state) = (steps.reverse.findSome? written).getD (read state) := by
  induction steps using List.reverseRecOn with
  | nil => rfl
  | append_singleton steps x ih =>
      rw [List.foldl_append, List.foldl_cons, List.foldl_nil, next, ih, List.reverse_append,
        List.reverse_singleton, List.singleton_append, List.findSome?_cons]
      cases written x <;> rfl

end Iteration
