import AirportRtw88.Queue.Tape
import Mathlib.Data.Fin.Basic
import Mathlib.Data.Int.ModEq

/-!
# Rings

A ring is an array with a head, where the next element goes, and a tail, the oldest element.
It is empty when the two are equal, so one cell stays free, and a ring that would become full
drops its oldest element.  It holds the unread part of a bounded tape.
-/

namespace Queue

variable {α : Type} {size : Nat}

/-- An array with the places of the next element to write and of the oldest one. -/
structure Ring (α : Type) (size : Nat) where
  cells : Vector α size
  head : Fin size
  tail : Fin size

/-- The place after one. -/
def following (place : Fin size) : Fin size where
  val := (place.val + 1) % size
  isLt := Nat.mod_lt _ place.pos

/-- The place some steps after one. -/
def place (start : Fin size) (steps : Nat) : Fin size where
  val := (start.val + steps) % size
  isLt := Nat.mod_lt _ start.pos

@[simp]
theorem place_zero (start : Fin size) : place start 0 = start :=
  Fin.ext (Nat.mod_eq_of_lt (by simp))

theorem following_place (start : Fin size) (steps : Nat) :
    following (place start steps) = place start (steps + 1) := by
  apply Fin.ext
  simp [following, place, Nat.add_assoc]

theorem place_following (start : Fin size) (steps : Nat) :
    place (following start) steps = place start (steps + 1) := by
  apply Fin.ext
  simp only [following, place, Nat.mod_add_mod, Nat.add_assoc, Nat.add_comm 1]

theorem place_eq_iff {start : Fin size} {first second : Nat} (firstSmall : first < size)
    (secondSmall : second < size) : place start first = place start second ↔ first = second := by
  constructor
  · intro same
    have values : (start.val + first) % size = (start.val + second) % size :=
      congrArg Fin.val same
    have congruent : first % size = second % size :=
      Nat.ModEq.add_left_cancel' start.val values
    rwa [Nat.mod_eq_of_lt firstSmall, Nat.mod_eq_of_lt secondSmall] at congruent
  · exact congrArg (place start)

namespace Ring

def cell (ring : Ring α size) (place : Fin size) : α :=
  ring.cells[place]

/-- Store an element at the head; if the head meets the tail, the oldest element is dropped. -/
def put (element : α) (ring : Ring α size) : Ring α size :=
  let head := following ring.head
  { cells := ring.cells.set ring.head element
    head := head
    tail := if head = ring.tail then following ring.tail else ring.tail }

def putAll (elements : List α) (ring : Ring α size) : Ring α size :=
  elements.foldl (fun ring element => ring.put element) ring

/-- Remove up to `capacity` elements, the oldest first. -/
def takeUpTo : Nat → Ring α size → List α × Ring α size
  | 0, ring => ([], ring)
  | capacity + 1, ring =>
      if ring.tail = ring.head then ([], ring)
      else
        let (elements, last) := takeUpTo capacity { ring with tail := following ring.tail }
        (ring.cell ring.tail :: elements, last)

/-- The elements of a ring, the oldest first. -/
structure Holds (ring : Ring α size) (elements : List α) : Prop where
  fits : elements.length < size
  head_eq : ring.head = place ring.tail elements.length
  cell_eq : ∀ index (inside : index < elements.length),
    ring.cell (place ring.tail index) = elements[index]

theorem Holds.of_empty {ring : Ring α size} (same : ring.head = ring.tail) : ring.Holds [] where
  fits := ring.head.pos
  head_eq := by simp [same]
  cell_eq := by simp

theorem Holds.empty_iff {ring : Ring α size} {elements : List α} (held : ring.Holds elements) :
    ring.tail = ring.head ↔ elements = [] := by
  have small := held.fits
  rw [held.head_eq]
  constructor
  · intro same
    have start : place ring.tail 0 = place ring.tail elements.length := by
      rw [place_zero]
      exact same
    rw [place_eq_iff ring.tail.pos small] at start
    exact List.eq_nil_of_length_eq_zero start.symm
  · rintro rfl
    exact (place_zero ring.tail).symm

/-- A ring with a stored element, before it is seen whether the ring is full. -/
private theorem cell_put {ring : Ring α size} {elements : List α} (held : ring.Holds elements)
    (element : α) (index : Nat) (inside : index < (elements ++ [element]).length) :
    (ring.put element).cell (place ring.tail index) = (elements ++ [element])[index] := by
  have small := held.fits
  rw [List.length_append, List.length_singleton] at inside
  simp only [cell, put, Fin.getElem_fin, Vector.getElem_set]
  by_cases old : index < elements.length
  · have other : ring.head.val ≠ (place ring.tail index).val := by
      intro same
      rw [← Fin.ext_iff, held.head_eq, place_eq_iff small (by omega)] at same
      omega
    rw [if_neg other, List.getElem_append_left old]
    exact held.cell_eq index old
  · obtain rfl : index = elements.length := by omega
    rw [if_pos (by rw [held.head_eq])]
    simp

theorem Holds.put {ring : Ring α size} {elements : List α} (held : ring.Holds elements)
    (element : α) :
    (ring.put element).Holds
      ((elements ++ [element]).drop ((elements ++ [element]).length - (size - 1))) := by
  have small := held.fits
  have head : following ring.head = place ring.tail (elements.length + 1) := by
    rw [held.head_eq, following_place]
  have full_iff : following ring.head = ring.tail ↔ elements.length + 1 = size := by
    rw [head]
    constructor
    · intro same
      by_contra room
      have start : place ring.tail (elements.length + 1) = place ring.tail 0 := by
        rw [place_zero]
        exact same
      rw [place_eq_iff (by omega) (by omega)] at start
      omega
    · intro full
      apply Fin.ext
      simp [place, full, Nat.mod_eq_of_lt ring.tail.isLt]
  by_cases full : elements.length + 1 = size
  · have dropped : (elements ++ [element]).length - (size - 1) = 1 := by
      simp only [List.length_append, List.length_singleton]
      omega
    have tail : (ring.put element).tail = following ring.tail := if_pos (full_iff.mpr full)
    rw [dropped]
    constructor
    · simp only [List.length_drop, List.length_append, List.length_singleton]
      omega
    · rw [tail, place_following]
      simpa [Ring.put, ← full] using head
    · intro index inside
      rw [tail, place_following, List.getElem_drop]
      rw [List.length_drop] at inside
      rw [cell_put held element (index + 1) (by omega)]
      simp only [Nat.add_comm]
  · have kept : (elements ++ [element]).length - (size - 1) = 0 := by
      simp only [List.length_append, List.length_singleton]
      omega
    have tail : (ring.put element).tail = ring.tail := if_neg (mt full_iff.mp full)
    rw [kept, List.drop_zero]
    constructor
    · simp only [List.length_append, List.length_singleton]
      omega
    · rw [tail]
      simpa [Ring.put] using head
    · intro index inside
      rw [tail]
      exact cell_put held element index inside

/-- Dropping to a bound after each element is dropping to it once. -/
private theorem drop_drop_append (elements later : List α) (bound : Nat) :
    (elements.drop (elements.length - bound) ++ later).drop
        ((elements.drop (elements.length - bound) ++ later).length - bound) =
      (elements ++ later).drop ((elements ++ later).length - bound) := by
  rw [← List.drop_append_of_le_length (Nat.sub_le _ _), List.drop_drop]
  congr 1
  simp only [List.length_drop, List.length_append]
  omega

theorem Holds.putAll {ring : Ring α size} {elements : List α} (held : ring.Holds elements)
    (later : List α) :
    (ring.putAll later).Holds
      ((elements ++ later).drop ((elements ++ later).length - (size - 1))) := by
  induction later generalizing ring elements with
  | nil =>
      have small := held.fits
      have kept : (elements ++ []).length - (size - 1) = 0 := by
        simp only [List.length_append, List.length_nil]
        omega
      rw [kept, List.append_nil, List.drop_zero]
      exact held
  | cons element later ih =>
      have next := ih (held.put element)
      rw [drop_drop_append, List.append_assoc, List.singleton_append] at next
      exact next

theorem Holds.takeUpTo {ring : Ring α size} {elements : List α} (held : ring.Holds elements)
    (capacity : Nat) :
    (ring.takeUpTo capacity).1 = elements.take capacity ∧
      (ring.takeUpTo capacity).2.Holds (elements.drop capacity) := by
  induction capacity generalizing ring elements with
  | zero => exact ⟨rfl, held⟩
  | succ capacity ih =>
      cases elements with
      | nil =>
          have empty : ring.tail = ring.head := held.empty_iff.mpr rfl
          rw [Ring.takeUpTo, if_pos empty]
          exact ⟨rfl, held⟩
      | cons element elements =>
          have small := held.fits
          rw [List.length_cons] at small
          have some : ring.tail ≠ ring.head := by simp [held.empty_iff]
          have shorter : Holds { ring with tail := following ring.tail } elements := by
            constructor
            · omega
            · change ring.head = place (following ring.tail) elements.length
              rw [place_following]
              exact held.head_eq
            · intro index inside
              change ring.cell (place (following ring.tail) index) = _
              rw [place_following]
              exact held.cell_eq (index + 1) (by simpa using inside)
          have oldest : ring.cell ring.tail = element := by
            have first := held.cell_eq 0 (by simp)
            rwa [place_zero] at first
          obtain ⟨outputs, left⟩ := ih shorter
          rw [Ring.takeUpTo, if_neg some]
          exact ⟨congrArg₂ List.cons oldest outputs, left⟩

end Ring

end Queue
