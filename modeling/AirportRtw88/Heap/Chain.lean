import Mathlib.Data.List.Nodup

/-!
# Linked lists in memory

Memory holds cells at addresses; a cell has a content and the address of the next cell.  A chain
is what a pointer leads to.  The file gives the walk that looks for a cell and remembers the
pointer to it, and says what unlinking, pushing and overwriting a cell do to chains.
-/

namespace Heap

variable {α : Type}

/-- A cell of a linked list. -/
structure Cell (α : Type) where
  content : α
  next : Option Nat

/-- What is allocated at each address. -/
abbrev Memory (α : Type) : Type :=
  Nat → Option (Cell α)

/-- What a walk remembers: the variable that holds the head of the list, or the next field of the
cell at an address. -/
inductive Link where
  | head
  | next (address : Nat)
  deriving DecidableEq

/-- The pointer leads to these cells, in this order. -/
def Chain (memory : Memory α) : Option Nat → List (Nat × α) → Prop
  | pointer, [] => pointer = none
  | pointer, entry :: rest =>
      pointer = some entry.1 ∧
        ∃ next, memory entry.1 = some ⟨entry.2, next⟩ ∧ Chain memory next rest

/-- Look for the first cell that matches.  There is no result if a pointer leads nowhere, or if
the list is longer than the bound. -/
def find (memory : Memory α) (wanted : α → Bool) :
    Nat → Link → Option Nat → Option (Option (Link × Nat × Cell α))
  | _, _, none => some none
  | 0, _, some _ => none
  | bound + 1, link, some address => do
      let cell ← memory address
      if wanted cell.content then return some (link, address, cell)
      else find memory wanted bound (.next address) cell.next

/-- Overwrite the pointer that a walk remembers. -/
def Link.write (link : Link) (pointer : Option Nat) (list : Option Nat × Memory α) :
    Option (Option Nat × Memory α) :=
  match link with
  | .head => some (pointer, list.2)
  | .next address => do
      let cell ← list.2 address
      return (list.1, Function.update list.2 address (some { cell with next := pointer }))

section Chains

variable {memory memory' : Memory α} {pointer : Option Nat} {entries : List (Nat × α)}

/-- A pointer leads to one list only. -/
theorem Chain.unique (chain : Chain memory pointer entries) {others : List (Nat × α)}
    (other : Chain memory pointer others) : entries = others := by
  induction entries generalizing pointer others with
  | nil =>
      cases others with
      | nil => rfl
      | cons entry rest => exact absurd (chain.symm.trans other.1) nofun
  | cons entry rest ih =>
      obtain ⟨rfl, next, cell, chain⟩ := chain
      cases others with
      | nil => exact absurd other nofun
      | cons entry' rest' =>
          obtain ⟨same, next', cell', other⟩ := other
          obtain ⟨address, content⟩ := entry
          obtain ⟨address', content'⟩ := entry'
          obtain rfl : address = address' := Option.some.inj same
          obtain ⟨rfl, rfl⟩ : content = content' ∧ next = next' := by
            simpa using cell.symm.trans cell'
          rw [ih chain other]

/-- Every suffix of a chain is one. -/
theorem Chain.suffix {before after : List (Nat × α)}
    (chain : Chain memory pointer (before ++ after)) : ∃ pointer', Chain memory pointer' after := by
  induction before generalizing pointer with
  | nil => exact ⟨pointer, chain⟩
  | cons entry rest ih =>
      obtain ⟨-, next, -, chain⟩ := chain
      exact ih chain

/-- A chain has no cycle. -/
theorem Chain.nodup (chain : Chain memory pointer entries) : (entries.map Prod.fst).Nodup := by
  induction entries generalizing pointer with
  | nil => exact List.nodup_nil
  | cons entry rest ih =>
      have whole := chain
      obtain ⟨rfl, next, cell, chain⟩ := chain
      refine List.nodup_cons.mpr ⟨fun again => ?_, ih chain⟩
      -- The rest of the list would lead to a longer list than itself.
      obtain ⟨entry', member, same⟩ := List.mem_map.mp again
      obtain ⟨before, after, rfl⟩ := List.append_of_mem member
      obtain ⟨pointer', later⟩ := chain.suffix
      obtain rfl : pointer' = some entry.1 := later.1.trans (congrArg some same)
      have lengths := congrArg List.length (whole.unique later)
      simp only [List.length_cons, List.length_append] at lengths
      omega

theorem Chain.allocated (chain : Chain memory pointer entries) (entry : Nat × α)
    (member : entry ∈ entries) : ∃ next, memory entry.1 = some ⟨entry.2, next⟩ := by
  induction entries generalizing pointer with
  | nil => cases member
  | cons first rest ih =>
      obtain ⟨-, next, cell, chain⟩ := chain
      rcases List.mem_cons.mp member with rfl | later
      · exact ⟨next, cell⟩
      · exact ih chain later

/-- What is not in the list may change. -/
theorem Chain.frame (chain : Chain memory pointer entries)
    (same : ∀ entry ∈ entries, memory' entry.1 = memory entry.1) :
    Chain memory' pointer entries := by
  induction entries generalizing pointer with
  | nil => exact chain
  | cons first rest ih =>
      obtain ⟨rfl, next, cell, chain⟩ := chain
      refine ⟨rfl, next, (same first (by simp)).trans cell, ih chain fun entry member => ?_⟩
      exact same entry (by simp [member])

/-- A cell elsewhere may change. -/
theorem Chain.update (chain : Chain memory pointer entries) {address : Nat}
    (apart : address ∉ entries.map Prod.fst) (cell : Option (Cell α)) :
    Chain (Function.update memory address cell) pointer entries := by
  refine chain.frame fun entry member => Function.update_of_ne ?_ _ _
  rintro rfl
  exact apart (List.mem_map_of_mem member)

theorem Chain.push (chain : Chain memory pointer entries) {address : Nat}
    (apart : address ∉ entries.map Prod.fst) (content : α) :
    Chain (Function.update memory address (some ⟨content, pointer⟩)) (some address)
      ((address, content) :: entries) :=
  ⟨rfl, pointer, Function.update_self .., chain.update apart _⟩

/-- Overwrite the content of a cell. -/
theorem Chain.overwrite {before after : List (Nat × α)} {address : Nat} {old content : α}
    (chain : Chain memory pointer (before ++ (address, old) :: after)) {next : Option Nat}
    (cell : memory address = some ⟨old, next⟩) :
    Chain (Function.update memory address (some ⟨content, next⟩)) pointer
      (before ++ (address, content) :: after) := by
  induction before generalizing pointer with
  | nil =>
      have distinct := chain.nodup
      obtain ⟨rfl, next', cell', chain⟩ := chain
      obtain rfl : next = next' := by simpa using cell.symm.trans cell'
      exact ⟨rfl, next, Function.update_self .., chain.update (List.nodup_cons.mp distinct).1 _⟩
  | cons entry rest ih =>
      have distinct := chain.nodup
      obtain ⟨rfl, next', cell', chain⟩ := chain
      have apart : entry.1 ≠ address := by
        rintro rfl
        exact (List.nodup_cons.mp distinct).1 (by simp)
      exact ⟨rfl, next', (Function.update_of_ne apart _ _).trans cell', ih chain⟩

/-! ## Unlinking -/

/-- The pointer to what follows these cells. -/
def Link.after (link : Link) (entries : List (Nat × α)) : Link :=
  entries.getLast?.elim link fun entry => .next entry.1

theorem Link.after_cons (link : Link) (entry : Nat × α) (rest : List (Nat × α)) :
    link.after (entry :: rest) = (Link.next entry.1).after rest := by
  cases rest with
  | nil => rfl
  | cons other rest =>
      rw [Link.after, Link.after, List.getLast?_cons_cons, List.getLast?_cons]
      rfl

theorem Chain.find_eq_none (chain : Chain memory pointer entries) (wanted : α → Bool)
    {bound : Nat} (enough : entries.length ≤ bound) (link : Link)
    (differ : ∀ entry ∈ entries, wanted entry.2 = false) :
    find memory wanted bound link pointer = some none := by
  induction entries generalizing pointer bound link with
  | nil =>
      obtain rfl : pointer = none := chain
      cases bound <;> rfl
  | cons entry rest ih =>
      obtain ⟨rfl, next, cell, chain⟩ := chain
      obtain ⟨bound, rfl⟩ : ∃ less, bound = less + 1 :=
        Nat.exists_eq_add_one.mpr (Nat.lt_of_lt_of_le (Nat.succ_pos _) enough)
      have other : wanted entry.2 = false := differ entry (by simp)
      have later := ih chain (Nat.le_of_succ_le_succ enough) (.next entry.1) fun entry member =>
        differ entry (by simp [member])
      simpa [find, cell, other] using later

/-- The walk stops at the first cell that matches. -/
theorem Chain.find_eq_some {before after : List (Nat × α)} {address : Nat} {content : α}
    (chain : Chain memory pointer (before ++ (address, content) :: after)) (wanted : α → Bool)
    {bound : Nat} (enough : (before ++ (address, content) :: after).length ≤ bound) (link : Link)
    (differ : ∀ entry ∈ before, wanted entry.2 = false) (found : wanted content = true) :
    ∃ next, memory address = some ⟨content, next⟩ ∧ Chain memory next after ∧
      find memory wanted bound link pointer =
        some (some (link.after before, address, ⟨content, next⟩)) := by
  induction before generalizing pointer bound link with
  | nil =>
      obtain ⟨rfl, next, cell, chain⟩ := chain
      obtain ⟨bound, rfl⟩ : ∃ less, bound = less + 1 :=
        Nat.exists_eq_add_one.mpr (Nat.lt_of_lt_of_le (Nat.succ_pos _) enough)
      exact ⟨next, cell, chain, by simp [find, cell, found, Link.after]⟩
  | cons entry rest ih =>
      obtain ⟨rfl, next, cell, chain⟩ := chain
      obtain ⟨bound, rfl⟩ : ∃ less, bound = less + 1 :=
        Nat.exists_eq_add_one.mpr (Nat.lt_of_lt_of_le (Nat.succ_pos _) enough)
      have other : wanted entry.2 = false := differ entry (by simp)
      obtain ⟨next', cell', chain', walks⟩ := ih chain (Nat.le_of_succ_le_succ enough)
        (.next entry.1) fun entry member => differ entry (by simp [member])
      refine ⟨next', cell', chain', ?_⟩
      rw [Link.after_cons, ← walks]
      simp [find, cell, other]

/-- Let a cell point to another list. -/
theorem Chain.redirect {front rest after : List (Nat × α)} {address : Nat} {content : α}
    (chain : Chain memory pointer (front ++ (address, content) :: rest)) {next : Option Nat}
    (later : Chain memory next after) (apart : address ∉ after.map Prod.fst) :
    Chain (Function.update memory address (some ⟨content, next⟩)) pointer
      (front ++ (address, content) :: after) := by
  induction front generalizing pointer with
  | nil => exact ⟨chain.1, next, Function.update_self .., later.update apart _⟩
  | cons entry front ih =>
      have distinct := chain.nodup
      obtain ⟨rfl, next', cell, chain⟩ := chain
      have differs : entry.1 ≠ address := by
        rintro rfl
        exact (List.nodup_cons.mp distinct).1 (by simp)
      exact ⟨rfl, next', (Function.update_of_ne differs _ _).trans cell, ih chain⟩

/-- Overwriting the pointer to a cell by the pointer to the next one takes the cell out. -/
theorem Chain.unlink {before after : List (Nat × α)} {address : Nat} {content : α}
    (chain : Chain memory pointer (before ++ (address, content) :: after)) {next : Option Nat}
    (later : Chain memory next after) :
    ∃ pointer' memory', (Link.head.after before).write next (pointer, memory) =
        some (pointer', memory') ∧ Chain memory' pointer' (before ++ after) ∧
      ∀ other ∉ before.map Prod.fst, memory' other = memory other := by
  rcases List.eq_nil_or_concat before with rfl | ⟨front, last, rfl⟩
  · exact ⟨next, memory, rfl, later, fun _ _ => rfl⟩
  obtain ⟨previous, held⟩ := last
  have shape : front.concat (previous, held) ++ (address, content) :: after =
      front ++ (previous, held) :: (address, content) :: after := by simp
  rw [shape] at chain
  obtain ⟨old, cell⟩ := chain.allocated (previous, held) (by simp)
  have apart : previous ∉ after.map Prod.fst := by
    obtain ⟨pointer', suffix⟩ := chain.suffix
    have distinct := List.nodup_cons.mp suffix.nodup
    exact fun again => distinct.1 (List.mem_cons_of_mem _ again)
  have redirected := chain.redirect later apart
  refine ⟨pointer, Function.update memory previous (some ⟨held, next⟩), ?_, ?_, ?_⟩
  · simp [Link.after, Link.write, cell]
  · simpa using redirected
  · intro other elsewhere
    exact Function.update_of_ne (fun same => elsewhere (by simp [same])) _ _

end Chains

end Heap
