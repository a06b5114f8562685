import AirportRtw88.Heap.Ring

/-!
# The lists of the compatibility layer

The circular lists of `types.h`, with `struct list_head` as the pointers of a node.
-/

namespace AirportRtw88

open Heap

namespace ListHead

/-- `INIT_LIST_HEAD`. -/
def initListHead (links : Links) (list : Nat) : Option Links := do
  let links ← links.setNext list list
  links.setPrev list list

/-- `list_add_tail`. -/
def listAddTail (links : Links) (node head : Nat) : Option Links := do
  let prev ← links.prevOf head
  links.insert node prev head

/-- `list_add`. -/
def listAdd (links : Links) (node head : Nat) : Option Links := do
  let next ← links.nextOf head
  links.insert node head next

/-- `list_del`. -/
def listDel (links : Links) (entry : Nat) : Option Links :=
  links.unlink entry

/-- `list_del_init`. -/
def listDelInit (links : Links) (entry : Nat) : Option Links := do
  let links ← listDel links entry
  initListHead links entry

/-- `list_empty`. -/
def listEmpty (links : Links) (head : Nat) : Option Bool := do
  let next ← links.nextOf head
  return next == head

variable {links : Links} {head node : Nat} {nodes before after : List Nat}

theorem initListHead_spec (allocated : (links node).isSome) :
    ∃ links', initListHead links node = some links' ∧ Ring links' node [] ∧
      links'.SameOutside links [node] := by
  obtain ⟨first, writes₁, next₁, prev₁, same₁⟩ := Links.setNext_spec node allocated node
  obtain ⟨second, writes₂, next₂, prev₂, same₂⟩ :=
    Links.setPrev_spec node ((same₁ node).trans allocated) node
  refine ⟨second, ?_, ⟨⟨?_, ?_⟩, by simp⟩, fun other outside => ⟨?_, ?_⟩, fun other => ?_⟩
  · rw [initListHead, writes₁, Option.bind_eq_bind, Option.bind_some, writes₂]
  · rw [next₂, next₁, if_pos rfl]
  · rw [prev₂, if_pos rfl]
  · rw [next₂, next₁, if_neg (by simpa using outside)]
  · rw [prev₂, prev₁, if_neg (by simpa using outside)]
  · rw [same₂, same₁]

theorem listAddTail_spec (ring : Ring links head nodes) (fresh : node ∉ head :: nodes)
    (own : (links node).isSome) :
    ∃ links', listAddTail links node head = some links' ∧ Ring links' head (nodes ++ [node]) ∧
      links'.SameOutside links (node :: head :: nodes) := by
  rw [← List.append_nil nodes] at ring fresh
  obtain ⟨links', writes, ring', same⟩ := ring.insert fresh own
  rw [List.append_nil] at same ring
  refine ⟨links', ?_, ring', same⟩
  rw [listAddTail, ring.prev_eq]
  exact writes

theorem listAdd_spec (ring : Ring links head nodes) (fresh : node ∉ head :: nodes)
    (own : (links node).isSome) :
    ∃ links', listAdd links node head = some links' ∧ Ring links' head (node :: nodes) ∧
      links'.SameOutside links (node :: head :: nodes) := by
  rw [← List.nil_append nodes] at ring
  obtain ⟨links', writes, ring', same⟩ := ring.insert fresh own
  refine ⟨links', ?_, ring', same⟩
  rw [listAdd, ring.next_eq]
  exact writes

theorem listDel_spec (ring : Ring links head (before ++ node :: after)) :
    ∃ links', listDel links node = some links' ∧ Ring links' head (before ++ after) ∧
      links'.SameOutside links (head :: (before ++ node :: after)) :=
  ring.unlink

theorem listDelInit_spec (ring : Ring links head (before ++ node :: after)) :
    ∃ links', listDelInit links node = some links' ∧ Ring links' head (before ++ after) ∧
      links'.SameOutside links (head :: (before ++ node :: after)) := by
  obtain ⟨first, writes₁, ring₁, same₁⟩ := listDel_spec ring
  have own : (first node).isSome :=
    (same₁.2 node).trans (ring.allocated node (by simp))
  obtain ⟨second, writes₂, -, same₂⟩ := initListHead_spec own
  have distinct := ring.nodup
  refine ⟨second, ?_, ?_, same₁.trans (same₂.mono (by simp))⟩
  · rw [listDelInit, writes₁, Option.bind_eq_bind, Option.bind_some, writes₂]
  · exact same₂.ring ring₁ (by grind [List.Disjoint])

theorem listEmpty_eq (ring : Ring links head nodes) :
    listEmpty links head = some nodes.isEmpty := by
  have empty := ring.next_eq_iff
  rw [listEmpty, ring.next_eq] at *
  cases nodes with
  | nil => simp
  | cons node rest => simpa using empty

end ListHead

end AirportRtw88
