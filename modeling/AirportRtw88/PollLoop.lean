import Mathlib.Data.List.Basic

/-!
# Polling

A loop reads a value until it is as wanted, or until it is late; then it reads once more.
-/

namespace PollLoop

variable {Value Time : Type}

/-- A value that was read, and the time that is looked at after that. -/
structure Reading (Value Time : Type) where
  value : Value
  time : Time

inductive Outcome (Value : Type) where
  | met (value : Value)
  | timedOut (value : Value)
  deriving DecidableEq

/-- What the loop makes of the readings, if it ends with them. -/
def loop (wanted : Value → Bool) (late : Time → Bool) :
    List (Reading Value Time) → Option (Outcome Value)
  | [] => none
  | reading :: rest =>
      if wanted reading.value then some (.met reading.value)
      else if late reading.time then
        rest.head?.map fun last =>
          if wanted last.value then .met last.value else .timedOut last.value
      else loop wanted late rest

variable {wanted : Value → Bool} {late : Time → Bool} {readings : List (Reading Value Time)}
  {value : Value}

/-- The loop gives up exactly if nothing that it read was as wanted, the last value included that
it read after it was late. -/
theorem loop_eq_timedOut_iff :
    loop wanted late readings = some (.timedOut value) ↔
      ∃ before reading last after, readings = before ++ reading :: last :: after ∧
        (∀ other ∈ before, wanted other.value = false ∧ late other.time = false) ∧
        wanted reading.value = false ∧ late reading.time = true ∧
        wanted last.value = false ∧ last.value = value := by
  induction readings with
  | nil => simp [loop]
  | cons first rest ih =>
      rw [loop]
      split
      · rename_i met
        constructor
        · nofun
        · rintro ⟨before, reading, last, after, same, earlier, unmet, -⟩
          cases before with
          | nil =>
              obtain ⟨rfl, -⟩ := List.cons.inj same
              rw [unmet] at met
              exact absurd met Bool.false_ne_true
          | cons other before =>
              obtain ⟨rfl, -⟩ := List.cons.inj same
              rw [(earlier _ List.mem_cons_self).1] at met
              exact absurd met Bool.false_ne_true
      · rename_i unmet
        have unmet := eq_false_of_ne_true unmet
        split
        · rename_i isLate
          constructor
          · intro gives
            obtain ⟨last, head, result⟩ := Option.map_eq_some_iff.mp gives
            obtain ⟨after, rfl⟩ := List.head?_eq_some_iff.mp head
            split at result
            · cases result
            · rename_i lastUnmet
              cases result
              exact ⟨[], first, last, after, rfl, nofun, unmet, isLate,
                eq_false_of_ne_true lastUnmet, rfl⟩
          · rintro ⟨before, reading, last, after, same, earlier, -, -, lastUnmet, rfl⟩
            cases before with
            | nil =>
                obtain ⟨rfl, rfl⟩ := List.cons.inj same
                simp [lastUnmet]
            | cons other before =>
                obtain ⟨rfl, -⟩ := List.cons.inj same
                rw [(earlier _ List.mem_cons_self).2] at isLate
                exact absurd isLate Bool.false_ne_true
        · rename_i early
          have early := eq_false_of_ne_true early
          rw [ih]
          constructor
          · rintro ⟨before, reading, last, after, rfl, earlier, others⟩
            refine ⟨first :: before, reading, last, after, rfl, ?_, others⟩
            exact List.forall_mem_cons.mpr ⟨⟨unmet, early⟩, earlier⟩
          · rintro ⟨before, reading, last, after, same, earlier, unmet', isLate, others⟩
            cases before with
            | nil =>
                obtain ⟨rfl, -⟩ := List.cons.inj same
                rw [early] at isLate
                exact absurd isLate Bool.false_ne_true
            | cons other before =>
                obtain ⟨rfl, rfl⟩ := List.cons.inj same
                exact ⟨before, reading, last, after, rfl,
                  (List.forall_mem_cons.mp earlier).2, unmet', isLate, others⟩

/-- The loop succeeds exactly with the first value that is as wanted, unless it was late more than
one reading before. -/
theorem loop_eq_met_iff :
    loop wanted late readings = some (.met value) ↔
      ∃ before reading after, readings = before ++ reading :: after ∧
        (∀ other ∈ before, wanted other.value = false) ∧
        (∀ other ∈ before.dropLast, late other.time = false) ∧
        wanted reading.value = true ∧ reading.value = value := by
  induction readings with
  | nil => simp [loop]
  | cons first rest ih =>
      rw [loop]
      split
      · rename_i met
        constructor
        · rintro ⟨⟩
          exact ⟨[], first, rest, rfl, nofun, nofun, met, rfl⟩
        · rintro ⟨before, reading, after, same, unmet, -, -, rfl⟩
          cases before with
          | nil =>
              obtain ⟨rfl, -⟩ := List.cons.inj same
              rfl
          | cons other before =>
              obtain ⟨rfl, -⟩ := List.cons.inj same
              rw [unmet _ List.mem_cons_self] at met
              exact absurd met Bool.false_ne_true
      · rename_i unmet
        have unmet := eq_false_of_ne_true unmet
        split
        · rename_i isLate
          constructor
          · intro gives
            obtain ⟨last, head, result⟩ := Option.map_eq_some_iff.mp gives
            obtain ⟨after, rfl⟩ := List.head?_eq_some_iff.mp head
            split at result
            · rename_i met
              cases result
              exact ⟨[first], last, after, rfl, by simpa using unmet, nofun, met, rfl⟩
            · cases result
          · rintro ⟨before, reading, after, same, none, early, met, rfl⟩
            match before with
            | [] =>
                obtain ⟨rfl, -⟩ := List.cons.inj same
                rw [unmet] at met
                exact absurd met Bool.false_ne_true
            | [other] =>
                obtain ⟨rfl, rfl⟩ := List.cons.inj same
                simp [met]
            | other :: second :: before =>
                obtain ⟨rfl, -⟩ := List.cons.inj same
                rw [early _ List.mem_cons_self] at isLate
                exact absurd isLate Bool.false_ne_true
        · rename_i early
          have early := eq_false_of_ne_true early
          rw [ih]
          constructor
          · rintro ⟨before, reading, after, rfl, none, notLate, others⟩
            refine ⟨first :: before, reading, after, rfl,
              List.forall_mem_cons.mpr ⟨unmet, none⟩, ?_, others⟩
            cases before with
            | nil => nofun
            | cons second before => exact List.forall_mem_cons.mpr ⟨early, notLate⟩
          · rintro ⟨before, reading, after, same, none, notLate, met, others⟩
            cases before with
            | nil =>
                obtain ⟨rfl, -⟩ := List.cons.inj same
                rw [unmet] at met
                exact absurd met Bool.false_ne_true
            | cons other before =>
                obtain ⟨rfl, rfl⟩ := List.cons.inj same
                refine ⟨before, reading, after, rfl, (List.forall_mem_cons.mp none).2, ?_, met,
                  others⟩
                intro other member
                cases before with
                | nil => exact absurd member List.not_mem_nil
                | cons second before => exact notLate other (List.mem_cons_of_mem _ member)

/-- The loop ends at the latest with the reading after the first one that is late. -/
theorem loop_ends (before : List (Reading Value Time)) (reading last : Reading Value Time)
    (after : List (Reading Value Time)) (isLate : late reading.time = true) :
    ∃ outcome, loop wanted late (before ++ reading :: last :: after) = some outcome := by
  induction before with
  | nil =>
      rw [List.nil_append, loop]
      split_ifs
      · exact ⟨_, rfl⟩
      · exact ⟨_, rfl⟩
  | cons first before ih =>
      rw [List.cons_append, loop]
      split
      · exact ⟨_, rfl⟩
      · split
        · cases before with
          | nil => exact ⟨_, rfl⟩
          | cons second before => exact ⟨_, rfl⟩
        · exact ih

end PollLoop
