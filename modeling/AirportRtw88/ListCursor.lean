import Mathlib.Data.List.Basic

/-!
# Cursors over growing lists

A cursor is an index below a bound, at which it wraps around.  It walks over a list that may grow at
its head in the meantime.
-/

/-- What a walk has come by: the list at its start, the values it has returned, and how many
values have been inserted. -/
structure ListCursor (α : Type) where
  initial : List α
  returned : List α
  inserted : Nat

namespace ListCursor

variable {α : Type}

/-- A walk that starts. -/
def start (list : List α) : ListCursor α where
  initial := list
  returned := []
  inserted := 0

def insert (walk : ListCursor α) : ListCursor α :=
  { walk with inserted := walk.inserted + 1 }

def next (walk : ListCursor α) (value : α) : ListCursor α :=
  { walk with returned := walk.returned ++ [value] }

/-- Nothing of the initial list is lost: what has not been returned is still ahead.  Without
insertions the walk is exact. -/
structure Covers (bound : Nat) (walk : ListCursor α) (list : List α) (cursor : Nat) : Prop where
  covered : ∀ value ∈ walk.initial, value ∈ walk.returned ∨ value ∈ list.drop cursor
  grown : list.length = walk.initial.length + walk.inserted
  counted : list.length < bound → walk.returned.length = cursor ∧ cursor ≤ list.length
  exact : walk.inserted = 0 → list = walk.initial ∧
    (list.length < bound → walk.returned = list.take cursor)

variable {bound cursor : Nat} {walk : ListCursor α} {list : List α}

theorem covers_start (bound : Nat) (list : List α) : (start list).Covers bound list 0 where
  covered _ member := .inr member
  grown := rfl
  counted _ := ⟨rfl, Nat.zero_le _⟩
  exact _ := ⟨rfl, fun _ => rfl⟩

/-- An insertion moves what is ahead of the cursor by one place. -/
theorem Covers.insert (covers : walk.Covers bound list cursor) (value : α) :
    walk.insert.Covers bound (value :: list) cursor where
  covered other member := by
    refine (covers.covered other member).imp_right fun ahead => ?_
    cases cursor with
    | zero => exact List.mem_cons_of_mem value ahead
    | succ cursor =>
        rw [List.drop_succ_cons]
        rw [← List.drop_drop] at ahead
        exact List.mem_of_mem_drop ahead
  grown := by
    have grown := covers.grown
    simp only [List.length_cons, ListCursor.insert]
    omega
  counted few := by
    rw [List.length_cons] at few ⊢
    obtain ⟨counted, inside⟩ := covers.counted (by omega)
    exact ⟨counted, by omega⟩
  exact none := absurd none (Nat.succ_ne_zero _)

/-- The value at the cursor is returned. -/
theorem Covers.next (covers : walk.Covers bound list cursor) {value : α}
    (ahead : list[cursor]? = some value) :
    (walk.next value).Covers bound list ((cursor + 1) % bound) := by
  obtain ⟨inside, found⟩ := List.getElem?_eq_some_iff.mp ahead
  have parts : list.drop cursor = value :: list.drop (cursor + 1) := by
    rw [List.drop_eq_getElem_cons inside, found]
  have wraps : ∀ other ∈ list.drop (cursor + 1), other ∈ list.drop ((cursor + 1) % bound) := by
    intro other member
    have less := Nat.mod_le (cursor + 1) bound
    obtain ⟨more, same⟩ := Nat.exists_eq_add_of_le less
    rw [same, ← List.drop_drop] at member
    exact List.mem_of_mem_drop member
  have stays : list.length < bound → (cursor + 1) % bound = cursor + 1 :=
    fun few => Nat.mod_eq_of_lt (by omega)
  constructor
  · intro other member
    rcases covers.covered other member with before | later
    · exact .inl (List.mem_append_left _ before)
    · rw [parts] at later
      rcases List.mem_cons.mp later with rfl | later
      · exact .inl (List.mem_append_right _ (List.mem_singleton_self _))
      · exact .inr (wraps other later)
  · exact covers.grown
  · intro few
    obtain ⟨counted, -⟩ := covers.counted few
    rw [stays few, ListCursor.next, List.length_append, counted]
    exact ⟨rfl, inside⟩
  · intro none
    obtain ⟨same, taken⟩ := covers.exact none
    refine ⟨same, fun few => ?_⟩
    rw [stays few, ListCursor.next, taken few, List.take_add_one, ahead, Option.toList_some]

/-- Where the list has ended, everything of the initial list has been returned; each insertion has
made the walk longer by one, and without one it has returned just the list. -/
theorem Covers.ended (covers : walk.Covers bound list cursor) (ended : list[cursor]? = none) :
    (∀ value ∈ walk.initial, value ∈ walk.returned) ∧
      (list.length < bound →
        walk.returned.length = walk.initial.length + walk.inserted ∧
          (walk.inserted = 0 → walk.returned = walk.initial)) := by
  have past := List.getElem?_eq_none_iff.mp ended
  constructor
  · intro value member
    refine (covers.covered value member).resolve_right fun ahead => ?_
    rw [List.drop_eq_nil_of_le past] at ahead
    exact absurd ahead List.not_mem_nil
  · intro few
    obtain ⟨counted, inside⟩ := covers.counted few
    constructor
    · rw [counted, ← covers.grown]
      exact Nat.le_antisymm inside past
    · intro none
      obtain ⟨same, taken⟩ := covers.exact none
      rw [taken few, List.take_of_length_le past, same]

end ListCursor
