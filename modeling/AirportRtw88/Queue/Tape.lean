import Mathlib.Data.List.Basic
import Mathlib.Order.Lattice
import Mathlib.Order.Defs.LinearOrder

/-!
# Bounded tapes

A tape holds everything that was ever written and the position of the next element to read.
At most `limit` elements are unread: a write that would leave more moves the position past
the oldest of them.
-/

namespace Queue

variable {α : Type}

/-- Everything written so far and the position of the next element to read. -/
structure Tape (α : Type) where
  written : List α
  next : Nat
  next_le : next ≤ written.length

/-- A use of a tape. -/
inductive Call (α : Type) : Type where
  | write (elements : List α)
  | read (capacity : Nat)

/-- Everything that a list of calls writes. -/
def Call.writes : List (Call α) → List α
  | [] => []
  | .write elements :: rest => elements ++ writes rest
  | .read _ :: rest => writes rest

namespace Tape

/-- The tape on which nothing is written. -/
def blank : Tape α where
  written := []
  next := 0
  next_le := le_rfl

def unread (tape : Tape α) : List α :=
  tape.written.drop tape.next

/-- Where a write leaves the position: only the last `limit` elements stay unread. -/
def write (limit : Nat) (elements : List α) (tape : Tape α) : Tape α where
  written := tape.written ++ elements
  next := max tape.next (tape.written.length + elements.length - limit)
  next_le := by
    have := tape.next_le
    simp only [List.length_append]
    omega

/-- The tape after a read of at most `capacity` elements. -/
def advance (capacity : Nat) (tape : Tape α) : Tape α where
  written := tape.written
  next := tape.next + min capacity tape.unread.length
  next_le := by
    have := tape.next_le
    simp only [unread, List.length_drop]
    omega

/-- What the reads of a list of calls return, and the tape after it. -/
def play (limit : Nat) : List (Call α) → Tape α → List (List α) × Tape α
  | [], tape => ([], tape)
  | .write elements :: rest, tape => play limit rest (tape.write limit elements)
  | .read capacity :: rest, tape =>
      let (outputs, last) := play limit rest (tape.advance capacity)
      (tape.unread.take capacity :: outputs, last)

variable (limit : Nat) (tape : Tape α)

@[simp]
theorem length_unread : tape.unread.length = tape.written.length - tape.next :=
  List.length_drop

theorem unread_write (elements : List α) :
    (tape.write limit elements).unread =
      (tape.unread ++ elements).drop ((tape.unread ++ elements).length - limit) := by
  have := tape.next_le
  have joined : tape.unread ++ elements = (tape.written ++ elements).drop tape.next :=
    (List.drop_append_of_le_length tape.next_le).symm
  have position : max tape.next (tape.written.length + elements.length - limit) =
      tape.next + ((tape.written ++ elements).length - tape.next - limit) := by
    simp only [List.length_append]
    omega
  rw [joined, List.drop_drop, List.length_drop, ← position]
  rfl

theorem unread_advance (capacity : Nat) :
    (tape.advance capacity).unread = tape.unread.drop capacity := by
  have position : (tape.advance capacity).unread =
      tape.written.drop (tape.next + min capacity tape.unread.length) := rfl
  rw [position, unread, List.drop_drop]
  by_cases fits : capacity ≤ tape.unread.length
  · rw [← unread, min_eq_left fits]
  · rw [← unread, min_eq_right (by omega)]
    rw [length_unread] at fits ⊢
    rw [List.drop_eq_nil_of_le (by omega), List.drop_eq_nil_of_le (by omega)]

theorem play_append (before after : List (Call α)) :
    play limit (before ++ after) tape =
      ((play limit before tape).1 ++ (play limit after (play limit before tape).2).1,
        (play limit after (play limit before tape).2).2) := by
  induction before generalizing tape with
  | nil => rfl
  | cons call before ih =>
      cases call with
      | write elements => exact ih _
      | read capacity => simp only [List.cons_append, play, ih]

theorem written_play (calls : List (Call α)) :
    (play limit calls tape).2.written = tape.written ++ Call.writes calls := by
  induction calls generalizing tape with
  | nil => simp [play, Call.writes]
  | cons call calls ih =>
      cases call with
      | write elements => simp [play, ih, write, Call.writes]
      | read capacity => simp [play, ih, advance, Call.writes]

/-- What is read is a subsequence of what is unread, followed by what is written later. -/
theorem flatten_play_sublist (calls : List (Call α)) :
    (play limit calls tape).1.flatten.Sublist (tape.unread ++ Call.writes calls) := by
  induction calls generalizing tape with
  | nil => simp [play]
  | cons call calls ih =>
      cases call with
      | write elements =>
          have kept := ih (tape.write limit elements)
          rw [unread_write] at kept
          apply kept.trans
          rw [Call.writes, ← List.append_assoc]
          exact (List.drop_sublist _ _).append_right _
      | read capacity =>
          have kept := ih (tape.advance capacity)
          rw [unread_advance] at kept
          have split : tape.unread ++ Call.writes calls =
              tape.unread.take capacity ++
                (tape.unread.drop capacity ++ Call.writes calls) := by
            rw [← List.append_assoc, List.take_append_drop]
          rw [Call.writes, split]
          exact kept.append_left _

/-- Nothing is lost as long as the unread elements fit. -/
theorem next_write_of_fits (elements : List α)
    (fits : tape.unread.length + elements.length ≤ limit) :
    (tape.write limit elements).next = tape.next := by
  have := tape.next_le
  rw [length_unread] at fits
  apply max_eq_left
  omega

/-- Otherwise the oldest are, so that as many are left as fit. -/
theorem next_write_of_exceeds (elements : List α)
    (exceeds : limit < tape.unread.length + elements.length) :
    (tape.write limit elements).next + limit = (tape.write limit elements).written.length := by
  have := tape.next_le
  rw [length_unread] at exceeds
  simp only [write, List.length_append]
  omega

end Tape

end Queue
