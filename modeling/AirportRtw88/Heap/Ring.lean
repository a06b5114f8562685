import Mathlib.Data.List.Lattice
import Mathlib.Data.List.Nodup
import Mathlib.Logic.Function.Basic

/-!
# Rings in memory

A node has a pointer to the next node and one to the previous node.  A ring is a head with the
nodes that its pointers lead to and back.  The file says what inserting a node, unlinking one and
walking along the pointers do to rings.
-/

namespace Heap

/-- The pointers of a node; no node is at address zero. -/
structure Pointers where
  next : Nat
  prev : Nat

/-- The nodes that are allocated. -/
abbrev Links : Type :=
  Nat → Option Pointers

namespace Links

/-- The next pointer of a node. -/
def nextOf (links : Links) (node : Nat) : Option Nat :=
  (links node).map Pointers.next

/-- The previous pointer of a node. -/
def prevOf (links : Links) (node : Nat) : Option Nat :=
  (links node).map Pointers.prev

def setNext (links : Links) (node target : Nat) : Option Links := do
  let pointers ← links node
  return Function.update links node (some { pointers with next := target })

def setPrev (links : Links) (node target : Nat) : Option Links := do
  let pointers ← links node
  return Function.update links node (some { pointers with prev := target })

/-- Put a node between two others. -/
def insert (links : Links) (node prev next : Nat) : Option Links := do
  let links ← links.setPrev next node
  let links ← links.setNext node next
  let links ← links.setPrev node prev
  links.setNext prev node

/-- Take a node out, and forget its pointers. -/
def unlink (links : Links) (node : Nat) : Option Links := do
  let pointers ← links node
  let links ← links.setNext pointers.prev pointers.next
  let pointers ← links node
  let links ← links.setPrev pointers.next pointers.prev
  let links ← links.setNext node 0
  links.setPrev node 0

/-- The pointers of all nodes but these are the same, and so are the nodes. -/
def SameOutside (links' links : Links) (nodes : List Nat) : Prop :=
  (∀ other ∉ nodes, links'.nextOf other = links.nextOf other ∧
    links'.prevOf other = links.prevOf other) ∧
  ∀ other, (links' other).isSome = (links other).isSome

variable {links links' : Links} {node prev next : Nat}

/-- A node is allocated when its pointers can be read. -/
theorem exists_pointers {target : Nat} (reads : links.nextOf node = some target) :
    ∃ prev, links node = some ⟨target, prev⟩ := by
  obtain ⟨pointers, found, rfl⟩ := Option.map_eq_some_iff.mp reads
  exact ⟨pointers.prev, found⟩

theorem nextOf_of_eq {pointers : Pointers} (found : links node = some pointers) :
    links.nextOf node = some pointers.next := by
  rw [nextOf, found, Option.map_some]

theorem prevOf_of_eq {pointers : Pointers} (found : links node = some pointers) :
    links.prevOf node = some pointers.prev := by
  rw [prevOf, found, Option.map_some]

theorem nextOf_update (pointers : Pointers) (other : Nat) :
    nextOf (Function.update links node (some pointers)) other =
      if other = node then some pointers.next else links.nextOf other := by
  by_cases same : other = node
  · rw [nextOf, same, Function.update_self, if_pos rfl, Option.map_some]
  · rw [nextOf, Function.update_of_ne same, if_neg same, nextOf]

theorem prevOf_update (pointers : Pointers) (other : Nat) :
    prevOf (Function.update links node (some pointers)) other =
      if other = node then some pointers.prev else links.prevOf other := by
  by_cases same : other = node
  · rw [prevOf, same, Function.update_self, if_pos rfl, Option.map_some]
  · rw [prevOf, Function.update_of_ne same, if_neg same, prevOf]

/-- What an overwritten next pointer changes. -/
theorem setNext_spec (node : Nat) (allocated : (links node).isSome) (target : Nat) :
    ∃ links', links.setNext node target = some links' ∧
      (∀ other, links'.nextOf other = if other = node then some target else links.nextOf other) ∧
      (∀ other, links'.prevOf other = links.prevOf other) ∧
      ∀ other, (links' other).isSome = (links other).isSome := by
  obtain ⟨pointers, found⟩ := Option.isSome_iff_exists.mp allocated
  refine ⟨_, by rw [setNext, found]; rfl, fun other => nextOf_update _ other, ?_, ?_⟩
  · intro other
    rw [prevOf_update]
    split
    case isTrue same => rw [same, prevOf_of_eq found]
    case isFalse => rfl
  · intro other
    by_cases same : other = node
    · rw [same, Function.update_self, found]
      rfl
    · rw [Function.update_of_ne same]

/-- What an overwritten previous pointer changes. -/
theorem setPrev_spec (node : Nat) (allocated : (links node).isSome) (target : Nat) :
    ∃ links', links.setPrev node target = some links' ∧
      (∀ other, links'.nextOf other = links.nextOf other) ∧
      (∀ other, links'.prevOf other = if other = node then some target else links.prevOf other) ∧
      ∀ other, (links' other).isSome = (links other).isSome := by
  obtain ⟨pointers, found⟩ := Option.isSome_iff_exists.mp allocated
  refine ⟨_, by rw [setPrev, found]; rfl, ?_, fun other => prevOf_update _ other, ?_⟩
  · intro other
    rw [nextOf_update]
    split
    case isTrue same => rw [same, nextOf_of_eq found]
    case isFalse => rfl
  · intro other
    by_cases same : other = node
    · rw [same, Function.update_self, found]
      rfl
    · rw [Function.update_of_ne same]

/-- What an insertion changes. -/
theorem insert_spec (ownAllocated : (links node).isSome) (prevAllocated : (links prev).isSome)
    (nextAllocated : (links next).isSome) :
    ∃ links', links.insert node prev next = some links' ∧
      (∀ other, links'.nextOf other =
        if other = prev then some node else if other = node then some next
        else links.nextOf other) ∧
      (∀ other, links'.prevOf other =
        if other = node then some prev else if other = next then some node
        else links.prevOf other) ∧
      ∀ other, (links' other).isSome = (links other).isSome := by
  obtain ⟨first, writes₁, next₁, prev₁, same₁⟩ := setPrev_spec next nextAllocated node
  obtain ⟨second, writes₂, next₂, prev₂, same₂⟩ :=
    setNext_spec node ((same₁ node).trans ownAllocated) next
  obtain ⟨third, writes₃, next₃, prev₃, same₃⟩ :=
    setPrev_spec node ((same₂ node).trans ((same₁ node).trans ownAllocated)) prev
  obtain ⟨fourth, writes₄, next₄, prev₄, same₄⟩ := setNext_spec prev
    ((same₃ prev).trans ((same₂ prev).trans ((same₁ prev).trans prevAllocated))) node
  refine ⟨fourth, ?_, fun other => ?_, fun other => ?_, fun other => ?_⟩
  · simp only [insert, writes₁, writes₂, writes₃, writes₄, bind, Option.bind]
  · rw [next₄, next₃, next₂, next₁]
  · rw [prev₄, prev₃, prev₂, prev₁]
  · rw [same₄, same₃, same₂, same₁]

/-- What unlinking a node changes that lies between two others. -/
theorem unlink_spec (own : links node = some ⟨next, prev⟩) (prevAllocated : (links prev).isSome)
    (nextAllocated : (links next).isSome) (apart : prev ≠ node) :
    ∃ links', links.unlink node = some links' ∧
      (∀ other, links'.nextOf other =
        if other = node then some 0 else if other = prev then some next
        else links.nextOf other) ∧
      (∀ other, links'.prevOf other =
        if other = node then some 0 else if other = next then some prev
        else links.prevOf other) ∧
      ∀ other, (links' other).isSome = (links other).isSome := by
  obtain ⟨first, writes₁, next₁, prev₁, same₁⟩ := setNext_spec prev prevAllocated next
  have again : first node = some ⟨next, prev⟩ := by
    have reads := next₁ node
    have back := prev₁ node
    rw [if_neg apart.symm, nextOf_of_eq own] at reads
    obtain ⟨prev', found⟩ := exists_pointers reads
    rw [prevOf_of_eq own, prevOf_of_eq found] at back
    obtain rfl : prev' = prev := Option.some.inj back
    exact found
  obtain ⟨second, writes₂, next₂, prev₂, same₂⟩ :=
    setPrev_spec next ((same₁ next).trans nextAllocated) prev
  have allocated : (second node).isSome := by
    rw [same₂, again]
    rfl
  obtain ⟨third, writes₃, next₃, prev₃, same₃⟩ := setNext_spec node allocated 0
  obtain ⟨fourth, writes₄, next₄, prev₄, same₄⟩ :=
    setPrev_spec node ((same₃ node).trans allocated) 0
  refine ⟨fourth, ?_, fun other => ?_, fun other => ?_, fun other => ?_⟩
  · simp only [unlink, own, writes₁, again, writes₂, writes₃, writes₄, bind, Option.bind]
  · rw [next₄, next₃, next₂, next₁]
  · rw [prev₄, prev₃, prev₂, prev₁]
  · rw [same₄, same₃, same₂, same₁]

end Links

/-! ## Paths -/

/-- From the first node to the last one through these nodes, with the pointers back. -/
def Path (links : Links) : Nat → List Nat → Nat → Prop
  | first, [], last => links.nextOf first = some last ∧ links.prevOf last = some first
  | first, node :: rest, last =>
      (links.nextOf first = some node ∧ links.prevOf node = some first) ∧
        Path links node rest last

section Paths

variable {links links' : Links} {first last : Nat}

/-- A node on a path divides it. -/
theorem path_append {before after : List Nat} {node : Nat} :
    Path links first (before ++ node :: after) last ↔
      Path links first before node ∧ Path links node after last := by
  induction before generalizing first with
  | nil => rfl
  | cons other rest ih =>
      rw [List.cons_append, Path, Path, ih]
      exact and_assoc.symm

/-- The pointers that a path goes along. -/
theorem Path.frame {nodes : List Nat} (path : Path links first nodes last)
    (nexts : ∀ node ∈ first :: nodes, links'.nextOf node = links.nextOf node)
    (prevs : ∀ node ∈ nodes ++ [last], links'.prevOf node = links.prevOf node) :
    Path links' first nodes last := by
  induction nodes generalizing first with
  | nil =>
      exact ⟨(nexts first (by simp)).trans path.1, (prevs last (by simp)).trans path.2⟩
  | cons node rest ih =>
      obtain ⟨⟨forth, back⟩, path⟩ := path
      refine ⟨⟨(nexts first (by simp)).trans forth, (prevs node (by simp)).trans back⟩,
        ih path (fun other member => nexts other (List.mem_cons_of_mem _ member))
          fun other member => prevs other (List.mem_cons_of_mem _ member)⟩

/-- Where a path leads first. -/
theorem Path.next_eq {nodes : List Nat} (path : Path links first nodes last) :
    links.nextOf first = some (nodes.headD last) := by
  cases nodes with
  | nil => exact path.1
  | cons node rest => exact path.1.1

/-- Where a path comes from last. -/
theorem Path.prev_eq {nodes : List Nat} (path : Path links first nodes last) :
    links.prevOf last = some (nodes.getLastD first) := by
  induction nodes generalizing first with
  | nil => exact path.2
  | cons node rest ih =>
      rw [List.getLastD_cons]
      exact ih path.2

/-- A node is put before the end of a path. -/
theorem Path.insert {nodes : List Nat} {node : Nat} (path : Path links first nodes last)
    (nexts : ∀ other, links'.nextOf other =
      if other = nodes.getLastD first then some node else if other = node then some last
      else links.nextOf other)
    (prevs : ∀ other, links'.prevOf other =
      if other = node then some (nodes.getLastD first) else if other = last then some node
      else links.prevOf other)
    (distinct : (first :: nodes).Nodup) (fresh : node ∉ last :: first :: nodes)
    (ends : last ∉ nodes) : Path links' first (nodes ++ [node]) last := by
  induction nodes generalizing first with
  | nil =>
      rw [List.getLastD_nil] at nexts prevs
      refine ⟨⟨?_, ?_⟩, ?_, ?_⟩
      · rw [nexts, if_pos rfl]
      · rw [prevs, if_pos rfl]
      · rw [nexts, if_neg (by simp at fresh ⊢; tauto), if_pos rfl]
      · rw [prevs, if_neg (by simp at fresh ⊢; tauto), if_pos rfl]
  | cons other rest ih =>
      obtain ⟨⟨forth, back⟩, path⟩ := path
      have member : rest.getLastD other ∈ other :: rest := List.getLastD_mem_cons
      rw [List.getLastD_cons] at nexts prevs
      refine ⟨⟨?_, ?_⟩, ih path nexts prevs (by grind) (by grind) (by grind)⟩
      · rw [nexts, if_neg (by grind), if_neg (by grind), forth]
      · rw [prevs, if_neg (by grind), if_neg (by grind), back]

/-- The last node of a path is taken out. -/
theorem Path.unlink {nodes : List Nat} {node : Nat} (path : Path links first (nodes ++ [node]) last)
    (nexts : ∀ other, links'.nextOf other =
      if other = node then some 0 else if other = nodes.getLastD first then some last
      else links.nextOf other)
    (prevs : ∀ other, links'.prevOf other =
      if other = node then some 0 else if other = last then some (nodes.getLastD first)
      else links.prevOf other)
    (distinct : (first :: nodes).Nodup) (apart : node ∉ last :: first :: nodes)
    (ends : last ∉ nodes) : Path links' first nodes last := by
  induction nodes generalizing first with
  | nil =>
      rw [List.getLastD_nil] at nexts prevs
      constructor
      · rw [nexts, if_neg (by simp at apart; tauto), if_pos rfl]
      · rw [prevs, if_neg (by simp at apart; tauto), if_pos rfl]
  | cons other rest ih =>
      obtain ⟨⟨forth, back⟩, path⟩ := path
      have member : rest.getLastD other ∈ other :: rest := List.getLastD_mem_cons
      rw [List.getLastD_cons] at nexts prevs
      refine ⟨⟨?_, ?_⟩, ih path nexts prevs (by grind) (by grind) (by grind)⟩
      · rw [nexts, if_neg (by grind), if_neg (by grind), forth]
      · rw [prevs, if_neg (by grind), if_neg (by grind), back]

end Paths

/-! ## Rings -/

/-- The head and the nodes that follow it, all different. -/
structure Ring (links : Links) (head : Nat) (nodes : List Nat) : Prop where
  path : Path links head nodes head
  nodup : (head :: nodes).Nodup

namespace Ring

variable {links links' : Links} {head node : Nat} {nodes before after : List Nat}

theorem next_eq (ring : Ring links head nodes) :
    links.nextOf head = some (nodes.headD head) :=
  ring.path.next_eq

theorem prev_eq (ring : Ring links head nodes) :
    links.prevOf head = some (nodes.getLastD head) :=
  ring.path.prev_eq

/-- The head points to itself when there is no other node. -/
theorem next_eq_iff (ring : Ring links head nodes) :
    links.nextOf head = some head ↔ nodes = [] := by
  rw [ring.next_eq]
  cases nodes with
  | nil => simp
  | cons node rest =>
      have apart := ring.nodup
      simp only [List.nodup_cons, List.mem_cons, not_or] at apart
      simpa using Ne.symm apart.1.1

theorem allocated (ring : Ring links head nodes) (node : Nat) (member : node ∈ head :: nodes) :
    (links node).isSome := by
  rcases List.mem_cons.mp member with rfl | member
  · exact Option.isSome_map.symm.trans (Option.isSome_of_eq_some ring.next_eq)
  · obtain ⟨before, after, rfl⟩ := List.append_of_mem member
    exact Option.isSome_map.symm.trans
      (Option.isSome_of_eq_some (path_append.mp ring.path).2.next_eq)

/-- A ring whose nodes keep their pointers. -/
theorem frame (ring : Ring links head nodes)
    (nexts : ∀ node ∈ head :: nodes, links'.nextOf node = links.nextOf node)
    (prevs : ∀ node ∈ head :: nodes, links'.prevOf node = links.prevOf node) :
    Ring links' head nodes where
  path := ring.path.frame nexts fun node member => prevs node (by
    rcases List.mem_append.mp member with member | member
    · exact List.mem_cons_of_mem _ member
    · rw [List.mem_singleton.mp member]
      exact List.mem_cons_self)
  nodup := ring.nodup

/-- Put a node that is not in the ring behind some of its nodes. -/
theorem insert (ring : Ring links head (before ++ after)) (fresh : node ∉ head :: (before ++ after))
    (own : (links node).isSome) :
    ∃ links', links.insert node (before.getLastD head) (after.headD head) = some links' ∧
      Ring links' head (before ++ node :: after) ∧ links'.SameOutside links
        (node :: head :: (before ++ after)) := by
  have distinct : (head :: (before ++ node :: after)).Nodup := by
    have distinct := ring.nodup
    grind
  have nextMember : after.headD head ∈ head :: after := by
    cases after <;> simp
  have prevMember : before.getLastD head ∈ head :: before := List.getLastD_mem_cons
  obtain ⟨links', writes, nexts, prevs, same⟩ := Links.insert_spec own
    (ring.allocated (before.getLastD head) (by grind))
    (ring.allocated (after.headD head) (by grind))
  refine ⟨links', writes, ⟨?_, distinct⟩, fun other outside => ?_, same⟩
  · cases after with
    | nil =>
        have path := ring.path
        rw [List.append_nil] at path
        exact path.insert nexts prevs (by grind) (by grind) (by grind)
    | cons next rest =>
        obtain ⟨path, onward⟩ := path_append.mp ring.path
        rw [show before ++ node :: next :: rest = (before ++ [node]) ++ next :: rest by simp]
        refine path_append.mpr ⟨path.insert nexts prevs (by grind) (by grind) (by grind),
          onward.frame (fun other member => ?_) fun other member => ?_⟩
        · rw [nexts, if_neg (by grind), if_neg (by grind)]
        · rw [prevs, if_neg (by grind), if_neg (by grind)]
  · rw [nexts, prevs]
    exact ⟨by grind, by grind⟩

/-- Take a node out of the ring. -/
theorem unlink (ring : Ring links head (before ++ node :: after)) :
    ∃ links', links.unlink node = some links' ∧ Ring links' head (before ++ after) ∧
      links'.SameOutside links (head :: (before ++ node :: after)) := by
  have distinct := ring.nodup
  have nextMember : after.headD head ∈ head :: after := by
    cases after <;> simp
  have prevMember : before.getLastD head ∈ head :: before := List.getLastD_mem_cons
  obtain ⟨path, onward⟩ := path_append.mp ring.path
  obtain ⟨prev, own⟩ := Links.exists_pointers onward.next_eq
  obtain rfl : prev = before.getLastD head :=
    Option.some.inj ((Links.prevOf_of_eq own).symm.trans path.prev_eq)
  obtain ⟨links', writes, nexts, prevs, same⟩ := Links.unlink_spec own
    (ring.allocated (before.getLastD head) (by grind))
    (ring.allocated (after.headD head) (by grind)) (by grind)
  refine ⟨links', writes, ⟨?_, by grind⟩, fun other outside => ?_, same⟩
  · cases after with
    | nil =>
        rw [List.append_nil]
        exact ring.path.unlink nexts prevs (by grind) (by grind) (by grind)
    | cons next rest =>
        have whole := ring.path
        rw [show before ++ node :: next :: rest = (before ++ [node]) ++ next :: rest by simp]
          at whole
        obtain ⟨whole, onward⟩ := path_append.mp whole
        refine path_append.mpr ⟨whole.unlink nexts prevs (by grind) (by grind) (by grind),
          onward.frame (fun other member => ?_) fun other member => ?_⟩
        · rw [nexts, if_neg (by grind), if_neg (by grind)]
        · rw [prevs, if_neg (by grind), if_neg (by grind)]
  · rw [nexts, prevs]
    exact ⟨by grind, by grind⟩

end Ring

/-- A ring away from what has changed. -/
theorem Links.SameOutside.ring {links links' : Links} {touched nodes : List Nat} {head : Nat}
    (same : links'.SameOutside links touched) (ring : Ring links head nodes)
    (apart : List.Disjoint touched (head :: nodes)) : Ring links' head nodes :=
  ring.frame (fun node member => (same.1 node fun inside => apart inside member).1)
    fun node member => (same.1 node fun inside => apart inside member).2

theorem Links.SameOutside.mono {links links' : Links} {touched wider : List Nat}
    (same : links'.SameOutside links touched) (within : touched ⊆ wider) :
    links'.SameOutside links wider :=
  ⟨fun other outside => same.1 other fun inside => outside (within inside), same.2⟩

theorem Links.SameOutside.trans {links links' links'' : Links} {touched : List Nat}
    (first : links'.SameOutside links touched) (second : links''.SameOutside links' touched) :
    links''.SameOutside links touched where
  left other outside := ⟨(second.1 other outside).1.trans (first.1 other outside).1,
    (second.1 other outside).2.trans (first.1 other outside).2⟩
  right other := (second.2 other).trans (first.2 other)

/-- Rings without common nodes. -/
structure Rings {Index : Type} (links : Links) (headOf : Index → Nat)
    (content : Index → Option (List Nat)) : Prop where
  ring : ∀ index nodes, content index = some nodes → Ring links (headOf index) nodes
  apart : ∀ index other nodes others, content index = some nodes → content other = some others →
    index ≠ other → List.Disjoint (headOf index :: nodes) (headOf other :: others)

/-- Rings away from what has changed. -/
theorem Rings.frame {Index : Type} {links links' : Links} {headOf : Index → Nat}
    {content : Index → Option (List Nat)} {node : Nat} (rings : Rings links headOf content)
    (same : ∀ other ≠ node, links'.nextOf other = links.nextOf other ∧
      links'.prevOf other = links.prevOf other)
    (away : ∀ index nodes, content index = some nodes → node ∉ headOf index :: nodes) :
    Rings links' headOf content where
  ring index nodes found := by
    have differs : ∀ other ∈ headOf index :: nodes, other ≠ node := by
      rintro other member rfl
      exact away index nodes found member
    exact (rings.ring index nodes found).frame
      (fun other member => (same other (differs other member)).1)
      fun other member => (same other (differs other member)).2
  apart := rings.apart

/-- One ring changes. -/
theorem Rings.change {Index : Type} [DecidableEq Index] {links links' : Links}
    {headOf : Index → Nat} {content : Index → Option (List Nat)} {index : Index}
    {touched nodes : List Nat} (rings : Rings links headOf content)
    (ring : Ring links' (headOf index) nodes) (same : links'.SameOutside links touched)
    (away : ∀ other others, content other = some others → other ≠ index →
      List.Disjoint (touched ++ nodes) (headOf other :: others))
    (inside : headOf index ∈ touched) :
    Rings links' headOf (Function.update content index (some nodes)) where
  ring other others found := by
    by_cases own : other = index
    · subst own
      rw [Function.update_self] at found
      exact Option.some.inj found ▸ ring
    · rw [Function.update_of_ne own] at found
      exact same.ring (rings.ring other others found)
        (List.disjoint_of_disjoint_append_left_left (away other others found own))
  apart first second firsts seconds found found' differ := by
    have separate : ∀ other others, content other = some others → other ≠ index →
        List.Disjoint (headOf index :: nodes) (headOf other :: others) := by
      intro other others found own
      exact List.disjoint_cons_left.mpr ⟨fun member => away other others found own
        (List.mem_append_left _ inside) member,
        List.disjoint_of_disjoint_append_left_right (away other others found own)⟩
    by_cases own : first = index
    · subst own
      rw [Function.update_self] at found
      rw [Function.update_of_ne differ.symm] at found'
      exact Option.some.inj found ▸ separate second seconds found' differ.symm
    · rw [Function.update_of_ne own] at found
      by_cases own' : second = index
      · subst own'
        rw [Function.update_self] at found'
        exact Option.some.inj found' ▸ (separate first firsts found own).symm
      · rw [Function.update_of_ne own'] at found'
        exact rings.apart first second firsts seconds found found' differ

/-! ## Walks -/

section Walks

variable {State : Type}

/-- Visit the nodes from one on; the node after the next one is read only after the visit. -/
def walkSafe (linksOf : State → Links) (visit : Nat → State → Option State) (head : Nat) :
    Nat → Nat → Nat → State → Option State
  | 0, node, _, state => if node = head then some state else none
  | bound + 1, node, next, state =>
      if node = head then some state
      else do
        let visited ← visit node state
        let later ← (linksOf visited).nextOf next
        walkSafe linksOf visit head bound next later visited

variable {linksOf : State → Links} {visit : Nat → State → Option State} {head : Nat}
variable {keeps : Nat → Bool}

/-- What holds when some nodes were visited and others are still to be: the ring has both, and a
visit leaves its node in the ring or takes it out. -/
structure Visits (linksOf : State → Links) (visit : Nat → State → Option State) (head : Nat)
    (keeps : Nat → Bool) (holds : State → List Nat → List Nat → Prop) : Prop where
  ring : ∀ state before after, holds state before after →
    Ring (linksOf state) head (before ++ after)
  visits : ∀ state before node after, holds state before (node :: after) →
    ∃ visited, visit node state = some visited ∧
      holds visited (before ++ [node].filter keeps) after

/-- A walk visits the nodes one after the other, even when visits take their nodes out. -/
theorem Visits.walkSafe_eq {holds : State → List Nat → List Nat → Prop}
    (rule : Visits linksOf visit head keeps holds) {before after : List Nat} {state : State}
    {next : Nat} (initially : holds state before after)
    (reads : (linksOf state).nextOf (after.headD head) = some next) (bound : Nat)
    (enough : after.length ≤ bound) :
    ∃ last, walkSafe linksOf visit head bound (after.headD head) next state = some last ∧
      holds last (before ++ after.filter keeps) [] := by
  induction after generalizing before state next bound with
  | nil =>
      refine ⟨state, ?_, by rwa [List.filter_nil, List.append_nil]⟩
      cases bound <;> exact if_pos rfl
  | cons node rest ih =>
      obtain ⟨bound, rfl⟩ : ∃ less, bound = less + 1 :=
        Nat.exists_eq_add_one.mpr (Nat.lt_of_lt_of_le (Nat.succ_pos _) enough)
      have ring := rule.ring state before (node :: rest) initially
      have apart : node ≠ head := by
        have distinct := ring.nodup
        grind
      obtain ⟨visited, visits, holds'⟩ := rule.visits state before node rest initially
      obtain rfl : rest.headD head = next := by
        have forth := (path_append.mp ring.path).2.next_eq
        exact Option.some.inj (forth.symm.trans reads)
      have member : rest.headD head ∈ head :: (before ++ [node].filter keeps ++ rest) := by
        cases rest <;> simp
      obtain ⟨pointers, found⟩ :=
        Option.isSome_iff_exists.mp ((rule.ring visited _ rest holds').allocated _ member)
      obtain ⟨last, walks, holds''⟩ := ih holds' (Links.nextOf_of_eq found) bound
        (Nat.le_of_succ_le_succ enough)
      refine ⟨last, ?_, ?_⟩
      · rw [List.headD_cons, walkSafe, if_neg apart, visits, Option.bind_eq_bind,
          Option.bind_some, Links.nextOf_of_eq found, Option.bind_eq_bind, Option.bind_some, walks]
      · rw [List.append_assoc, ← List.filter_append] at holds''
        exact holds''

end Walks

end Heap
