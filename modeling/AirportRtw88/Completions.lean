import AirportRtw88.Interleave.Machine
import Mathlib.Logic.Function.Basic
import Mathlib.Tactic.Common

/-!
# Completions

A completion counts the calls of `complete` that no wait has used, and `complete_all` sets the
counter to its maximum, which waits leave there.  The file models any number of threads that
complete, wait and poll, and proves when waits behave as they should.
-/

namespace AirportRtw88

open Interleave

/-- Where a thread is in a wait. -/
inductive WaitPhase where
  | away
  /-- About to look at the counter, in a wait with or without a timeout. -/
  | checking (timed : Bool)
  /-- In `IOLockSleep`. -/
  | asleep
  /-- About to compare the time with the deadline. -/
  | polling
  deriving DecidableEq

/-- `struct completion`, and the threads that wait for it. -/
structure Completion where
  done : Nat
  phase : Nat → WaitPhase

/-- `~0u`. -/
def allDone : Nat :=
  4294967295

/-- How a wait that finds the counter set leaves it. -/
def takeDone (done : Nat) : Option Nat :=
  if done = 0 then none else some (if done ≠ allDone then done - 1 else done)

/-- A section under the lock, or the comparison with the deadline between two of them. -/
inductive CompletionStep where
  | complete
  | completeAll
  | reinit
  | enter (thread : Nat) (timed : Bool)
  | check (thread : Nat)
  | poll (thread : Nat) (late : Bool)

namespace Completion

/-- `init_completion`. -/
def init : Completion where
  done := 0
  phase := fun _ => .away

/-- `IOLockWakeup` of all threads that sleep. -/
def wakeup (c : Completion) (thread : Nat) : WaitPhase :=
  if c.phase thread = .asleep then .checking false else c.phase thread

def move (c : Completion) (thread : Nat) (phase : WaitPhase) : Completion :=
  { c with phase := Function.update c.phase thread phase }

def step : CompletionStep → Completion → Option Completion
  | .complete, c => some { done := (c.done + 1) % 4294967296, phase := c.wakeup }
  | .completeAll, c => some { done := allDone, phase := c.wakeup }
  | .reinit, c => some { c with done := 0 }
  | .enter thread timed, c =>
      if c.phase thread = .away then some (c.move thread (.checking timed)) else none
  | .check thread, c =>
      match c.phase thread with
      | .checking timed =>
          match takeDone c.done with
          | some done => some { c.move thread .away with done := done }
          | none => some (c.move thread (if timed then .polling else .asleep))
      | _ => none
  | .poll thread late, c =>
      if c.phase thread = .polling then
        some (c.move thread (if late then .away else .checking true))
      else none

/-- What has happened since the last `reinit_completion`: the calls of `complete`, the waits that
succeeded, whether there was a `complete_all`, and whether 2³² - 1 completions were ever
outstanding. -/
structure History where
  completes : Nat
  waits : Nat
  all : Bool
  full : Bool

def History.fresh : History where
  completes := 0
  waits := 0
  all := false
  full := false

def note (action : CompletionStep) (c : Completion) (h : History) : History :=
  match action with
  | .complete =>
      { h with
        completes := h.completes + 1
        full := h.full || decide (allDone ≤ h.completes + 1 - h.waits) }
  | .completeAll => { h with all := true }
  | .reinit => .fresh
  | .check _ => if c.done = 0 then h else { h with waits := h.waits + 1 }
  | _ => h

/-- A completion with its history. -/
def machine : Machine CompletionStep (Completion × History) where
  step := fun action (c, h) => (c.step action).map fun next => (next, note action c h)

/-- The semantics of completions. -/
structure Lawful (now : Completion × History) : Prop where
  /-- After a `complete_all` a wait succeeds at once, and nobody sleeps. -/
  all : now.2.all = true → (takeDone now.1.done).isSome ∧ ∀ thread, now.1.phase thread ≠ .asleep
  counted : now.2.all = false → now.2.full = false → now.2.waits ≤ now.2.completes
  /-- A completion that no wait has used is available to one. -/
  available : now.2.all = false → now.2.full = false → now.2.waits < now.2.completes →
    (takeDone now.1.done).isSome

/-- `complete` is not called between a `complete_all` and the next `reinit_completion`. -/
def InTime (action : CompletionStep) (now : Completion × History) : Prop :=
  action = .complete → now.2.all = false

/-- The counter is at its maximum after a `complete_all`, and counts the completions that are
left otherwise. -/
structure Counts (now : Completion × History) : Prop where
  all : now.2.all = true → now.1.done = allDone ∧ ∀ thread, now.1.phase thread ≠ .asleep
  some : now.2.all = false → now.2.full = false →
    now.1.done + now.2.waits = now.2.completes ∧ now.1.done < allDone

theorem takeDone_isSome {done : Nat} (set : done ≠ 0) : (takeDone done).isSome := by
  simp [takeDone, set]

theorem Counts.lawful {now : Completion × History} (counts : Counts now) : Lawful now where
  all := by
    intro all
    obtain ⟨done, awake⟩ := counts.all all
    exact ⟨takeDone_isSome (by rw [done]; decide), awake⟩
  counted := by
    intro none few
    have := (counts.some none few).1
    omega
  available := by
    intro none few left
    have := (counts.some none few).1
    exact takeDone_isSome (by omega)

theorem counts_init : Counts (init, .fresh) where
  all := by simp [History.fresh]
  some := by simp [init, History.fresh, allDone]

theorem wakeup_ne_asleep (c : Completion) (thread : Nat) : c.wakeup thread ≠ .asleep := by
  unfold wakeup
  split
  · exact WaitPhase.noConfusion
  · assumption

theorem move_ne_asleep {c : Completion} (awake : ∀ thread, c.phase thread ≠ .asleep)
    {mover : Nat} {phase : WaitPhase} (other : phase ≠ .asleep) (thread : Nat) :
    (c.move mover phase).phase thread ≠ .asleep := by
  change Function.update c.phase mover phase thread ≠ .asleep
  by_cases same : thread = mover
  · rw [same, Function.update_self]
    exact other
  · rw [Function.update_of_ne same]
    exact awake thread

/-- A step of a wait either takes a completion or leaves the counter and the history alone. -/
theorem check_cases {c c' : Completion} {thread : Nat}
    (stepped : c.step (.check thread) = some c') :
    (∃ done, takeDone c.done = some done ∧ c' = { c.move thread .away with done := done }) ∨
      c.done = 0 ∧ ∃ phase, c' = c.move thread phase := by
  rw [step] at stepped
  cases phase : c.phase thread with
  | checking timed =>
      rw [phase] at stepped
      cases taken : takeDone c.done with
      | some done =>
          rw [taken] at stepped
          exact .inl ⟨done, rfl, (Option.some.inj stepped).symm⟩
      | none =>
          rw [taken] at stepped
          have empty : c.done = 0 := by
            by_contra set
            simp [takeDone, set] at taken
          exact .inr ⟨empty, _, (Option.some.inj stepped).symm⟩
  | _ =>
      rw [phase] at stepped
      cases stepped

theorem takeDone_eq_some {done left : Nat} (taken : takeDone done = some left) :
    done ≠ 0 ∧ left = if done ≠ allDone then done - 1 else done := by
  unfold takeDone at taken
  split at taken
  · cases taken
  · exact ⟨by assumption, (Option.some.inj taken).symm⟩

/-- A step that only moves a thread keeps the invariant. -/
theorem Counts.move {c : Completion} {h : History} (counts : Counts (c, h)) (thread : Nat)
    {phase : WaitPhase} (awake : h.all = true → phase ≠ .asleep) :
    Counts (c.move thread phase, h) where
  all := by
    intro all
    obtain ⟨done, others⟩ := counts.all all
    exact ⟨done, move_ne_asleep others (awake all)⟩
  some := counts.some

theorem Counts.step {action : CompletionStep} {before after : Completion × History}
    (counts : Counts before) (inTime : InTime action before)
    (stepped : machine.step action before = .some after) : Counts after := by
  obtain ⟨c, h⟩ := before
  obtain ⟨c', moved, same⟩ := Option.map_eq_some_iff.mp stepped
  obtain rfl := same.symm
  cases action with
  | complete =>
      have none : h.all = false := inTime rfl
      obtain rfl := Option.some.inj moved
      constructor
      · intro all
        exact absurd (none.symm.trans all) Bool.false_ne_true
      · intro _ few
        simp only [note, Bool.or_eq_false_iff, decide_eq_false_iff_not] at few
        obtain ⟨count, small⟩ : c.done + h.waits = h.completes ∧ c.done < allDone :=
          counts.some none few.1
        simp only [note]
        unfold allDone at *
        omega
  | completeAll =>
      obtain rfl := Option.some.inj moved
      constructor
      · intro _
        exact ⟨rfl, c.wakeup_ne_asleep⟩
      · intro missing
        cases missing
  | reinit =>
      obtain rfl := Option.some.inj moved
      constructor
      · intro all
        cases all
      · intro _ _
        exact ⟨rfl, (by decide : 0 < allDone)⟩
  | enter thread timed =>
      rw [Completion.step] at moved
      split at moved
      · obtain rfl := Option.some.inj moved
        exact counts.move thread fun _ => WaitPhase.noConfusion
      · cases moved
  | check thread =>
      rcases check_cases moved with ⟨left, taken, rfl⟩ | ⟨empty, phase, rfl⟩
      · obtain ⟨set, left_eq⟩ := takeDone_eq_some taken
        rw [note, if_neg set]
        constructor
        · intro all
          obtain ⟨done, others⟩ := counts.all all
          change c.done = allDone at done
          rw [if_neg (not_not.mpr done)] at left_eq
          exact ⟨left_eq.trans done, move_ne_asleep others WaitPhase.noConfusion⟩
        · intro none few
          have := counts.some none few
          simp only at this ⊢
          rw [if_pos (by omega)] at left_eq
          omega
      · rw [note, if_pos empty]
        apply counts.move thread
        intro all
        have full := (counts.all all).1
        rw [show c.done = 0 from empty] at full
        cases full
  | poll thread late =>
      rw [Completion.step] at moved
      split at moved
      · obtain rfl := Option.some.inj moved
        apply counts.move thread
        intro _
        cases late <;> exact WaitPhase.noConfusion
      · cases moved

/-- A `complete` after a `complete_all` wraps the counter to zero. -/
theorem Counts.lost {action : CompletionStep} {before : Completion × History}
    (counts : Counts before) (late : ¬ InTime action before) :
    ∃ after, machine.step action before = .some after ∧ ¬ Lawful after := by
  obtain ⟨c, h⟩ := before
  obtain ⟨rfl, all⟩ := Classical.not_imp.mp late
  have all : h.all = true := Bool.not_eq_false _ ▸ all
  refine ⟨_, rfl, ?_⟩
  intro lawful
  have set := (lawful.all all).1
  have done : c.done = allDone := (counts.all all).1
  simp only [done] at set
  cases set

/-- In a run that never completes after a `complete_all`, and in no other, waits behave as they
should; and whatever a thread does in a wait that does not succeed leaves the counter alone. -/
theorem waits_lawful_iff (actions : List CompletionStep) :
    (machine.Along Lawful actions (init, .fresh) ↔
      machine.Keeps InTime actions (init, .fresh)) ∧
    ∀ (c c' : Completion) (thread : Nat) (timed late : Bool),
      (c.step (.enter thread timed) = some c' ∨ c.step (.poll thread late) = some c' ∨
        c.step (.check thread) = some c' ∧ c.done = 0) → c'.done = c.done := by
  constructor
  · exact Machine.along_iff_keeps (fun _ counts => Counts.lawful counts)
      (fun _ _ _ counts inTime stepped => Counts.step counts inTime stepped)
      (fun _ _ counts late => Counts.lost counts late) actions counts_init
  · rintro c c' thread timed late (entered | polled | ⟨checked, empty⟩)
    · rw [step] at entered
      split at entered
      · obtain rfl := Option.some.inj entered
        rfl
      · cases entered
    · rw [step] at polled
      split at polled
      · obtain rfl := Option.some.inj polled
        rfl
      · cases polled
    · rcases check_cases checked with ⟨left, taken, rfl⟩ | ⟨-, phase, rfl⟩
      · exact absurd empty (takeDone_eq_some taken).1
      · rfl

/-- After `complete_all` and `complete` a wait blocks. -/
theorem not_waits_lawful : ¬ ∀ actions, machine.Along Lawful actions (init, .fresh) := by
  intro lawful
  have last := ((lawful [.completeAll, .complete]).2 _ rfl).2 _ rfl
  exact absurd (last.all rfl).1 (by decide)

end Completion

end AirportRtw88
