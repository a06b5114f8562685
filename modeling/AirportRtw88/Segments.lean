import Mathlib.Data.List.Basic

/-!
# Segmented buffers

A packet may lie in several segments.  It is read across their borders, and cut at its front, as
if it lay in one piece.
-/

namespace Segments

variable {α : Type}

/-- Where an offset lies: the segments from there on, and the offset in the first of them. -/
def skip : List (List α) → Nat → Option (List (List α) × Nat)
  | segments, 0 => some (segments, 0)
  | [], _ + 1 => none
  | segment :: rest, offset + 1 =>
      if offset + 1 < segment.length then some (segment :: rest, offset + 1)
      else skip rest (offset + 1 - segment.length)

/-- So many elements from an offset in the first segment. -/
def gather : List (List α) → Nat → Nat → Option (List α)
  | _, _, 0 => some []
  | [], _, _ + 1 => none
  | segment :: rest, offset, length + 1 =>
      let count := min (segment.length - offset) (length + 1)
      (gather rest 0 (length + 1 - count)).map ((segment.drop offset).take count ++ ·)

/-- A copy of a range, if there is so much. -/
def copy (segments : List (List α)) (offset length : Nat) : Option (List α) :=
  (skip segments offset).bind fun found => gather found.1 found.2 length

/-- The segments without so many elements at the front. -/
def trim : List (List α) → Nat → List (List α)
  | [], _ => []
  | segment :: rest, count =>
      if segment.length ≤ count then [] :: trim rest (count - segment.length)
      else segment.drop count :: rest

theorem gather_eq (segments : List (List α)) (offset length : Nat)
    (inside : offset ≤ segments.flatten.length) (first : ∀ segment ∈ segments.head?,
      offset ≤ segment.length) (fits : offset + length ≤ segments.flatten.length) :
    gather segments offset length = some ((segments.flatten.drop offset).take length) := by
  induction segments generalizing offset length with
  | nil =>
      cases length with
      | zero => simp [gather]
      | succ length => simp at fits
  | cons segment rest ih =>
      cases length with
      | zero => simp [gather]
      | succ length =>
          have small : offset ≤ segment.length := first segment rfl
          rw [List.flatten_cons, List.length_append] at fits
          have later := ih 0 (length + 1 - min (segment.length - offset) (length + 1))
            (Nat.zero_le _) (fun _ _ => Nat.zero_le _) (by omega)
          rw [gather, later, Option.map_some, List.drop_zero, List.flatten_cons,
            List.drop_append_of_le_length small, List.take_append, List.length_drop]
          rcases Nat.le_total (segment.length - offset) (length + 1) with short | long
          · have whole : (segment.drop offset).take (segment.length - offset) =
                segment.drop offset :=
              List.take_of_length_le (Nat.le_of_eq List.length_drop)
            have all : (segment.drop offset).take (length + 1) = segment.drop offset :=
              List.take_of_length_le (by rw [List.length_drop]; exact short)
            rw [Nat.min_eq_left short, whole, all]
          · rw [Nat.min_eq_right long, Nat.sub_self, List.take_zero,
              Nat.sub_eq_zero_of_le long, List.take_zero]

theorem gather_eq_none (segments : List (List α)) (offset length : Nat)
    (first : ∀ segment ∈ segments.head?, offset ≤ segment.length)
    (lacks : segments.flatten.length < offset + length) (some : 0 < length) :
    gather segments offset length = none := by
  induction segments generalizing offset length with
  | nil =>
      cases length with
      | zero => exact absurd some (Nat.lt_irrefl 0)
      | succ length => rfl
  | cons segment rest ih =>
      cases length with
      | zero => exact absurd some (Nat.lt_irrefl 0)
      | succ length =>
          have small : offset ≤ segment.length := first segment rfl
          rw [List.flatten_cons, List.length_append] at lacks
          rw [gather, ih 0 _ (fun _ _ => Nat.zero_le _) (by omega) (by omega), Option.map_none]

theorem skip_spec (segments : List (List α)) (offset : Nat)
    (inside : offset ≤ segments.flatten.length) :
    ∃ rest start, skip segments offset = some (rest, start) ∧
      (∀ segment ∈ rest.head?, start ≤ segment.length) ∧
      start ≤ rest.flatten.length ∧ segments.flatten.drop offset = rest.flatten.drop start := by
  induction segments generalizing offset with
  | nil =>
      cases offset with
      | zero => exact ⟨[], 0, rfl, by simp, Nat.le_refl _, rfl⟩
      | succ offset => simp at inside
  | cons segment rest ih =>
      cases offset with
      | zero => exact ⟨segment :: rest, 0, rfl, by simp, Nat.zero_le _, rfl⟩
      | succ offset =>
          rw [List.flatten_cons, List.length_append] at inside
          by_cases here : offset + 1 < segment.length
          · refine ⟨segment :: rest, offset + 1, if_pos here, ?_, ?_, rfl⟩
            · intro other member
              cases member
              exact Nat.le_of_lt here
            · rw [List.flatten_cons, List.length_append]
              omega
          · obtain ⟨found, start, skips, first, fits, same⟩ :=
              ih (offset + 1 - segment.length) (by omega)
            refine ⟨found, start, (if_neg here).trans skips, first, fits, ?_⟩
            rw [List.flatten_cons, List.drop_append, List.drop_eq_nil_of_le (Nat.not_lt.mp here),
              List.nil_append]
            exact same

theorem skip_eq_none (segments : List (List α)) (offset : Nat)
    (outside : segments.flatten.length < offset) : skip segments offset = none := by
  induction segments generalizing offset with
  | nil =>
      cases offset with
      | zero => exact absurd outside (Nat.not_lt_zero _)
      | succ offset => rfl
  | cons segment rest ih =>
      rw [List.flatten_cons, List.length_append] at outside
      cases offset with
      | zero => exact absurd outside (Nat.not_lt_zero _)
      | succ offset =>
          rw [skip, if_neg (by omega)]
          exact ih _ (by omega)

/-- A copy does not see the borders of the segments. -/
theorem copy_eq (segments : List (List α)) (offset length : Nat) :
    copy segments offset length =
      if offset + length ≤ segments.flatten.length then
        some ((segments.flatten.drop offset).take length)
      else none := by
  rw [copy]
  by_cases inside : offset ≤ segments.flatten.length
  · obtain ⟨rest, start, skips, first, fits, same⟩ := skip_spec segments offset inside
    have lengths := congrArg List.length same
    rw [List.length_drop, List.length_drop] at lengths
    rw [skips, Option.bind_some, same]
    split
    · exact gather_eq rest start length fits first (by omega)
    · exact gather_eq_none rest start length first (by omega) (by omega)
  · rw [skip_eq_none segments offset (Nat.not_le.mp inside), if_neg (by omega)]
    rfl

/-- Nor does a cut. -/
theorem flatten_trim (segments : List (List α)) (count : Nat) :
    (trim segments count).flatten = segments.flatten.drop count := by
  induction segments generalizing count with
  | nil => simp [trim]
  | cons segment rest ih =>
      rw [trim, List.flatten_cons, List.drop_append]
      split
      · rename_i whole
        rw [List.flatten_cons, ih, List.nil_append, List.drop_eq_nil_of_le whole, List.nil_append]
      · rename_i part
        have zero : count - segment.length = 0 := by omega
        rw [List.flatten_cons, zero, List.drop_zero]

end Segments
