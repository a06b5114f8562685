import AirportRtw88.ListHead
import AirportRtw88.Service
import Mathlib.Algebra.Ring.Nat

/-!
# Queues of socket buffers

The queue functions of `skbuff.h` on their list nodes, and what the queues are for: lists of
buffers.  Each function runs under the lock of its queue, so a run is a list of calls.
-/

namespace AirportRtw88

open Heap ListHead

namespace SkbQueue

/-- Where the list node of a `struct sk_buff` is. -/
def skbListOffset : Nat := 120

/-- `&skb->list`. -/
def listOf (skb : Nat) : Nat :=
  skb + skbListOffset

/-- `container_of(node, struct sk_buff, list)`. -/
def containerOf (node : Nat) : Nat :=
  node - skbListOffset

/-- The list nodes in memory, the `qlen` of each queue, and the buffers freed, latest last. -/
structure SkbMemory where
  links : Links
  qlen : Nat → Nat
  freed : List Nat

/-- `list->qlen++`, a `u32`. -/
def SkbMemory.increment (s : SkbMemory) (list : Nat) : SkbMemory :=
  { s with qlen := Function.update s.qlen list ((s.qlen list + 1) % 2 ^ 32) }

/-- `list->qlen--`. -/
def SkbMemory.decrement (s : SkbMemory) (list : Nat) : SkbMemory :=
  { s with qlen := Function.update s.qlen list ((s.qlen list + (2 ^ 32 - 1)) % 2 ^ 32) }

/-- `skb_queue_head_init`. -/
def skbQueueHeadInit (list : Nat) (s : SkbMemory) : Option SkbMemory := do
  let links ← initListHead s.links list
  return { s with links, qlen := Function.update s.qlen list 0 }

/-- `alloc_skb`, at the address that the allocator has chosen. -/
def allocSkb (skb : Nat) (s : SkbMemory) : Option SkbMemory := do
  let zeroed : Links := Function.update s.links (listOf skb) (some ⟨0, 0⟩)
  let links ← initListHead zeroed (listOf skb)
  return { s with links }

/-- `kfree_skb`. -/
def kfreeSkb (skb : Nat) (s : SkbMemory) : SkbMemory :=
  { s with
    links := Function.update s.links (listOf skb) none
    freed := s.freed ++ [skb] }

/-- `skb_queue_tail`. -/
def skbQueueTail (list skb : Nat) (s : SkbMemory) : Option SkbMemory := do
  let links ← listAddTail s.links (listOf skb) list
  return { s with links }.increment list

/-- `skb_queue_head`. -/
def skbQueueHead (list skb : Nat) (s : SkbMemory) : Option SkbMemory := do
  let links ← listAdd s.links (listOf skb) list
  return { s with links }.increment list

/-- `skb_unlink`. -/
def skbUnlink (skb list : Nat) (s : SkbMemory) : Option SkbMemory := do
  let links ← listDel s.links (listOf skb)
  return { s with links }.decrement list

/-- `skb_peek`. -/
def skbPeek (list : Nat) (s : SkbMemory) : Option (Option Nat) := do
  if ← listEmpty s.links list then return none
  let next ← s.links.nextOf list
  return some (containerOf next)

/-- `skb_dequeue`. -/
def skbDequeue (list : Nat) (s : SkbMemory) : Option (SkbMemory × Option Nat) := do
  if ← listEmpty s.links list then return (s, none)
  let next ← s.links.nextOf list
  let links ← listDel s.links (listOf (containerOf next))
  return ({ s with links }.decrement list, some (containerOf next))

/-- `skb_queue_purge`; the loop ends within the bound, or the model gives no result. -/
def skbQueuePurge (list : Nat) : Nat → SkbMemory → Option SkbMemory
  | 0, _ => none
  | bound + 1, s => do
      let (s, dequeued) ← skbDequeue list s
      match dequeued with
      | none => return s
      | some skb => skbQueuePurge list bound (kfreeSkb skb s)

/-- The calls. -/
inductive Op where
  | queueHeadInit (list : Nat)
  | alloc (skb : Nat)
  | kfree (skb : Nat)
  | queueTail (list skb : Nat)
  | queueHead (list skb : Nat)
  | dequeue (list : Nat)
  | unlink (skb list : Nat)
  | peek (list : Nat)
  | queueLen (list : Nat)
  | queueEmpty (list : Nat)

inductive Result where
  | done
  | buffer (skb : Option Nat)
  | length (length : Nat)
  | empty (empty : Bool)
  deriving DecidableEq

/-- The calls on memory. -/
def memory : Service Op Result SkbMemory where
  perform
    | .queueHeadInit list, s => (skbQueueHeadInit list s).map (·, .done)
    | .alloc skb, s => (allocSkb skb s).map (·, .done)
    | .kfree skb, s => some (kfreeSkb skb s, .done)
    | .queueTail list skb, s => (skbQueueTail list skb s).map (·, .done)
    | .queueHead list skb, s => (skbQueueHead list skb s).map (·, .done)
    | .dequeue list, s => (skbDequeue list s).map fun done => (done.1, .buffer done.2)
    | .unlink skb list, s => (skbUnlink skb list s).map (·, .done)
    | .peek list, s => (skbPeek list s).map fun skb => (s, .buffer skb)
    | .queueLen list, s => some (s, .length (s.qlen list))
    | .queueEmpty list, s => (listEmpty s.links list).map fun empty => (s, .empty empty)

/-! ## What the queues are for -/

/-- The buffers of each queue in order, where each allocated buffer is, and those freed. -/
structure Queues where
  content : Nat → Option (List Nat)
  place : Nat → Option (Option Nat)
  freed : List Nat

namespace Queues

/-- A queue has these buffers now, and a buffer is in this place. -/
def move (s : Queues) (list : Nat) (buffers : List Nat) (skb : Nat) (place : Option Nat) :
    Queues :=
  { s with
    content := Function.update s.content list (some buffers)
    place := Function.update s.place skb (some place) }

/-- What a call does to the queues, where it is allowed: a queue is initialised before it is used
and again only when it is empty, only a buffer outside all queues is queued or freed, and the
allocator gives a buffer that is not in use. -/
def perform (heads : List Nat) : Op → Queues → Option (Queues × Result)
  | .queueHeadInit list, s =>
      if list ∈ heads ∧ (s.content list).getD [] = [] then
        some ({ s with content := Function.update s.content list (some []) }, .done)
      else none
  | .alloc skb, s =>
      if s.place skb = none ∧ listOf skb ∉ heads then
        some ({ s with place := Function.update s.place skb (some none) }, .done)
      else none
  | .kfree skb, s =>
      if s.place skb = some none then
        some ({ s with
          place := Function.update s.place skb none
          freed := s.freed ++ [skb] }, .done)
      else none
  | .queueTail list skb, s => do
      let buffers ← s.content list
      if s.place skb = some none then
        some (s.move list (buffers ++ [skb]) skb (some list), .done)
      else none
  | .queueHead list skb, s => do
      let buffers ← s.content list
      if s.place skb = some none then
        some (s.move list (skb :: buffers) skb (some list), .done)
      else none
  | .dequeue list, s => do
      match ← s.content list with
      | [] => some (s, .buffer none)
      | skb :: rest => some (s.move list rest skb none, .buffer (some skb))
  | .unlink skb list, s => do
      let buffers ← s.content list
      if s.place skb = some (some list) then
        some (s.move list (buffers.erase skb) skb none, .done)
      else none
  | .peek list, s => do
      let buffers ← s.content list
      some (s, .buffer buffers.head?)
  | .queueLen list, s => do
      let buffers ← s.content list
      some (s, .length (buffers.length % 2 ^ 32))
  | .queueEmpty list, s => do
      let buffers ← s.content list
      some (s, .empty buffers.isEmpty)

end Queues

/-- The queues of the heads at these addresses. -/
def queues (heads : List Nat) : Service Op Result Queues where
  perform := Queues.perform heads

/-! ## Memory and queues -/

theorem listOf_injective : Function.Injective listOf :=
  fun _ _ same => Nat.add_right_cancel same

@[simp]
theorem containerOf_listOf (skb : Nat) : containerOf (listOf skb) = skb :=
  Nat.add_sub_cancel ..

/-- The rings in memory are the queues, and the places agree with them. -/
structure Related (heads : List Nat) (links : Links) (qlen : Nat → Nat)
    (content : Nat → Option (List Nat)) (place : Nat → Option (Option Nat)) : Prop where
  rings : Rings links id fun list => (content list).map (List.map listOf)
  length : ∀ list buffers, content list = some buffers → qlen list = buffers.length % 2 ^ 32
  inside : ∀ list buffers, content list = some buffers → list ∈ heads
  present : ∀ list ∈ heads, (links list).isSome
  placed : ∀ list buffers skb, content list = some buffers →
    (skb ∈ buffers ↔ place skb = some (some list))
  queued : ∀ skb list, place skb = some (some list) → (content list).isSome
  allocated : ∀ skb, (place skb).isSome → (links (listOf skb)).isSome ∧ listOf skb ∉ heads

theorem content_update {content : Nat → Option (List Nat)} {list : Nat} {buffers : List Nat} :
    (fun other => (Function.update content list (some buffers) other).map (List.map listOf)) =
      Function.update (fun other => (content other).map (List.map listOf)) list
        (some (buffers.map listOf)) := by
  funext other
  by_cases own : other = list
  · subst own
    simp
  · simp [own]

namespace Related

variable {heads : List Nat} {links links' : Links} {qlen : Nat → Nat}
variable {content : Nat → Option (List Nat)} {place : Nat → Option (Option Nat)}
variable {list skb : Nat} {buffers : List Nat}

theorem ring (related : Related heads links qlen content place)
    (found : content list = some buffers) : Ring links list (buffers.map listOf) :=
  related.rings.ring list _ (by rw [found, Option.map_some])

/-- A buffer that is not in a queue is not in its ring. -/
theorem not_mem (related : Related heads links qlen content place)
    (found : content list = some buffers) (elsewhere : place skb ≠ some (some list))
    (outside : listOf skb ∉ heads) : listOf skb ∉ list :: buffers.map listOf := by
  rw [List.mem_cons, List.mem_map_of_injective listOf_injective, not_or]
  constructor
  · rintro rfl
    exact outside (related.inside _ buffers found)
  · rwa [related.placed list buffers skb found]

/-- A queue changes by one buffer. -/
theorem move (related : Related heads links qlen content place)
    (found : content list = some buffers) {later : List Nat} {target : Option Nat} {count : Nat}
    (ring : Ring links' list (later.map listOf))
    (same : links'.SameOutside links (listOf skb :: list :: buffers.map listOf))
    (before : place skb = some none ∨ place skb = some (some list))
    (after : target = none ∨ target = some list)
    (members : ∀ other, other ∈ later ↔ if other = skb then target = some list
      else other ∈ buffers)
    (counts : count = later.length % 2 ^ 32) :
    Related heads links' (Function.update qlen list count)
      (Function.update content list (some later)) (Function.update place skb (some target)) := by
  have outside : listOf skb ∉ heads :=
    (related.allocated skb (by rcases before with before | before <;> simp [before])).2
  have within : ∀ node ∈ later.map listOf, node ∈ listOf skb :: buffers.map listOf := by
    intro node member
    obtain ⟨other, kept, rfl⟩ := List.mem_map.mp member
    rw [members] at kept
    split at kept
    case isTrue same => exact same ▸ List.mem_cons_self
    case isFalse => exact List.mem_cons_of_mem _ (List.mem_map_of_mem kept)
  constructor
  case rings =>
    rw [content_update]
    refine related.rings.change ring same (fun other others found' differs => ?_) (by simp)
    obtain ⟨others, another, rfl⟩ := Option.map_eq_some_iff.mp found'
    have alone : listOf skb ∉ other :: others.map listOf := by
      refine related.not_mem another ?_ outside
      rcases before with before | before <;> simp [before, Ne.symm differs]
    have separate := related.rings.apart list other _ _ (by rw [found, Option.map_some])
      found' (Ne.symm differs)
    intro node member member'
    have moved : node ∈ listOf skb :: list :: buffers.map listOf := by
      rcases List.mem_append.mp member with member | member
      · exact member
      · have := within node member
        grind
    rcases List.mem_cons.mp moved with rfl | moved
    · exact alone member'
    · exact separate moved member'
  case length =>
    intro other others found'
    by_cases own : other = list
    · subst own
      rw [Function.update_self] at found' ⊢
      rw [counts, Option.some.inj found']
    · rw [Function.update_of_ne own] at found' ⊢
      exact related.length other others found'
  case inside =>
    intro other others found'
    by_cases own : other = list
    · exact own ▸ related.inside list buffers found
    · rw [Function.update_of_ne own] at found'
      exact related.inside other others found'
  case present => exact fun other member => (same.2 other).trans (related.present other member)
  case placed =>
    intro other others buffer found'
    by_cases own : other = list
    · subst own
      rw [Function.update_self] at found'
      rw [← Option.some.inj found', members]
      by_cases this : buffer = skb
      · simp [this]
      · rw [if_neg this, Function.update_of_ne this, related.placed _ buffers buffer found]
    · rw [Function.update_of_ne own] at found'
      rw [related.placed other others buffer found']
      by_cases this : buffer = skb
      · subst this
        rw [Function.update_self]
        grind
      · rw [Function.update_of_ne this]
  case queued =>
    intro buffer other placed
    by_cases own : other = list
    · simp [own]
    · rw [Function.update_of_ne own]
      by_cases this : buffer = skb
      · subst this
        rw [Function.update_self] at placed
        grind
      · rw [Function.update_of_ne this] at placed
        exact related.queued buffer other placed
  case allocated =>
    intro buffer placed
    rw [same.2]
    by_cases this : buffer = skb
    · subst this
      exact related.allocated buffer (by rcases before with before | before <;> simp [before])
    · rw [Function.update_of_ne this] at placed
      exact related.allocated buffer placed

/-- A queue is made empty that had no buffers. -/
theorem reset (related : Related heads links qlen content place) (known : list ∈ heads)
    (empty : (content list).getD [] = []) (ring : Ring links' list [])
    (same : links'.SameOutside links [list]) :
    Related heads links' (Function.update qlen list 0) (Function.update content list (some []))
      place := by
  constructor
  case rings =>
    rw [content_update]
    refine related.rings.change ring same (fun other others found differs => ?_) (by simp)
    obtain ⟨others, another, rfl⟩ := Option.map_eq_some_iff.mp found
    have alone : list ∉ others.map listOf := by
      intro member
      obtain ⟨skb, queued, rfl⟩ := List.mem_map.mp member
      rw [related.placed other others skb another] at queued
      exact (related.allocated skb (by rw [queued]; rfl)).2 known
    simpa [Ne.symm differs] using alone
  case length =>
    intro other others found
    by_cases own : other = list
    · subst own
      rw [Function.update_self] at found ⊢
      rw [← Option.some.inj found]
      rfl
    · rw [Function.update_of_ne own] at found ⊢
      exact related.length other others found
  case inside =>
    intro other others found
    by_cases own : other = list
    · exact own ▸ known
    · rw [Function.update_of_ne own] at found
      exact related.inside other others found
  case present => exact fun other member => (same.2 other).trans (related.present other member)
  case placed =>
    intro other others skb found
    by_cases own : other = list
    · subst own
      rw [Function.update_self] at found
      rw [← Option.some.inj found]
      refine ⟨nofun, fun placed => ?_⟩
      obtain ⟨buffers, found⟩ := Option.isSome_iff_exists.mp (related.queued skb other placed)
      rw [found, Option.getD_some] at empty
      subst empty
      exact (related.placed other [] skb found).mpr placed
    · rw [Function.update_of_ne own] at found
      exact related.placed other others skb found
  case queued =>
    intro skb other placed
    by_cases own : other = list
    · simp [own]
    · rw [Function.update_of_ne own]
      exact related.queued skb other placed
  case allocated => exact fun skb placed => ⟨(same.2 _).trans (related.allocated skb placed).1,
      (related.allocated skb placed).2⟩

/-- A buffer outside all queues appears or disappears. -/
theorem replace (related : Related heads links qlen content place) (outside : listOf skb ∉ heads)
    (alone : place skb = none ∨ place skb = some none) {target : Option (Option Nat)}
    (same : ∀ other ≠ listOf skb, links'.nextOf other = links.nextOf other ∧
      links'.prevOf other = links.prevOf other)
    (after : target = none ∨ target = some none ∧ (links' (listOf skb)).isSome) :
    Related heads links' qlen content (Function.update place skb target) := by
  have never : ∀ list, target ≠ some (some list) ∧ place skb ≠ some (some list) := by
    intro list
    rcases after with rfl | ⟨rfl, -⟩ <;> rcases alone with alone | alone <;> simp [alone]
  have stays : ∀ other ≠ listOf skb, (links' other).isSome = (links other).isSome := by
    intro other differs
    have reads := congrArg Option.isSome (same other differs).1
    rwa [Links.nextOf, Links.nextOf, Option.isSome_map, Option.isSome_map] at reads
  constructor
  case rings =>
    refine related.rings.frame same fun list nodes found => ?_
    obtain ⟨buffers, another, rfl⟩ := Option.map_eq_some_iff.mp found
    exact related.not_mem another (never list).2 outside
  case length => exact related.length
  case inside => exact related.inside
  case present =>
    intro list known
    rw [stays list fun equal => outside (equal ▸ known)]
    exact related.present list known
  case placed =>
    intro list buffers other found
    rw [related.placed list buffers other found]
    by_cases this : other = skb
    · subst this
      simp [never]
    · rw [Function.update_of_ne this]
  case queued =>
    intro other list queued
    by_cases this : other = skb
    · subst this
      rw [Function.update_self] at queued
      exact absurd queued (never list).1
    · rw [Function.update_of_ne this] at queued
      exact related.queued other list queued
  case allocated =>
    intro other found
    by_cases this : other = skb
    · subst this
      rw [Function.update_self] at found
      rcases after with rfl | ⟨-, present⟩
      · cases found
      · exact ⟨present, outside⟩
    · rw [Function.update_of_ne this] at found
      rw [stays _ fun equal => this (listOf_injective equal)]
      exact related.allocated other found

end Related

/-- What the memory has to do with the queues. -/
def Represents (heads : List Nat) (s : SkbMemory) (q : Queues) : Prop :=
  Related heads s.links s.qlen q.content q.place ∧ s.freed = q.freed

section Calls

variable {heads : List Nat} {s : SkbMemory} {q : Queues} {list skb : Nat} {buffers : List Nat}

theorem skbQueueHeadInit_represents (represents : Represents heads s q) (known : list ∈ heads)
    (empty : (q.content list).getD [] = []) :
    ∃ next, skbQueueHeadInit list s = some next ∧
      Represents heads next { q with content := Function.update q.content list (some []) } := by
  obtain ⟨links, writes, ring, same⟩ := initListHead_spec (represents.1.present list known)
  refine ⟨{ s with links, qlen := Function.update s.qlen list 0 }, ?_,
    represents.1.reset known empty ring same, represents.2⟩
  rw [skbQueueHeadInit, writes]
  rfl

theorem allocSkb_represents (represents : Represents heads s q) (free : q.place skb = none)
    (outside : listOf skb ∉ heads) :
    ∃ next, allocSkb skb s = some next ∧
      Represents heads next { q with place := Function.update q.place skb (some none) } := by
  have own : (Function.update s.links (listOf skb) (some ⟨0, 0⟩) (listOf skb)).isSome := by
    rw [Function.update_self]
    rfl
  obtain ⟨links, writes, -, same⟩ := initListHead_spec own
  refine ⟨{ s with links }, ?_, represents.1.replace outside (.inl free) ?_ (.inr ⟨rfl, ?_⟩),
    represents.2⟩
  · rw [allocSkb, writes]
    rfl
  · intro other differs
    have frame := same.1 other (by simpa using differs)
    rwa [Links.nextOf_update, Links.prevOf_update, if_neg differs, if_neg differs] at frame
  · exact (same.2 _).trans own

theorem kfreeSkb_represents (represents : Represents heads s q) (skb : Nat)
    (alone : q.place skb = some none) :
    Represents heads (kfreeSkb skb s) { q with
      place := Function.update q.place skb none
      freed := q.freed ++ [skb] } := by
  have outside := (represents.1.allocated skb (by rw [alone]; rfl)).2
  refine ⟨represents.1.replace outside (.inr alone) (fun other differs => ?_) (.inl rfl), ?_⟩
  · simp only [kfreeSkb, Links.nextOf, Links.prevOf, Function.update_of_ne differs, and_self]
  · exact congrArg (· ++ [skb]) represents.2

/-- A queued buffer is one more, modulo the width of `qlen`. -/
theorem qlen_add (represents : Represents heads s q) (found : q.content list = some buffers) :
    (s.qlen list + 1) % 2 ^ 32 = (buffers.length + 1) % 2 ^ 32 := by
  rw [represents.1.length list buffers found]
  omega

theorem skbQueueTail_represents (represents : Represents heads s q)
    (found : q.content list = some buffers) (alone : q.place skb = some none) :
    ∃ next, skbQueueTail list skb s = some next ∧
      Represents heads next (q.move list (buffers ++ [skb]) skb (some list)) := by
  obtain ⟨allocated, outside⟩ := represents.1.allocated skb (by rw [alone]; rfl)
  have fresh := represents.1.not_mem found (by rw [alone]; nofun) outside
  obtain ⟨links, writes, ring, same⟩ :=
    listAddTail_spec (represents.1.ring found) fresh allocated
  refine ⟨{ s with links }.increment list, ?_, represents.1.move found ?_ same (.inl alone)
    (.inr rfl) (fun other => ?_) ?_, represents.2⟩
  · rw [skbQueueTail, writes]
    rfl
  · rwa [List.map_append]
  · by_cases own : other = skb <;> simp [own]
  · have counts := qlen_add represents found
    rw [List.length_append]
    exact counts

theorem skbQueueHead_represents (represents : Represents heads s q)
    (found : q.content list = some buffers) (alone : q.place skb = some none) :
    ∃ next, skbQueueHead list skb s = some next ∧
      Represents heads next (q.move list (skb :: buffers) skb (some list)) := by
  obtain ⟨allocated, outside⟩ := represents.1.allocated skb (by rw [alone]; rfl)
  have fresh := represents.1.not_mem found (by rw [alone]; nofun) outside
  obtain ⟨links, writes, ring, same⟩ := listAdd_spec (represents.1.ring found) fresh allocated
  refine ⟨{ s with links }.increment list, ?_, represents.1.move found ring same (.inl alone)
    (.inr rfl) (fun other => ?_) ?_, represents.2⟩
  · rw [skbQueueHead, writes]
    rfl
  · by_cases own : other = skb <;> simp [own]
  · have counts := qlen_add represents found
    exact counts

/-- Buffers are in a queue once. -/
theorem nodup_of_represents (represents : Represents heads s q)
    (found : q.content list = some buffers) : buffers.Nodup :=
  (represents.1.ring found).nodup.of_cons.of_map

/-- A buffer is taken out of the middle of its queue. -/
theorem listDel_represents (represents : Represents heads s q) {before after : List Nat}
    (found : q.content list = some (before ++ skb :: after)) :
    ∃ links, listDel s.links (listOf skb) = some links ∧
      Represents heads ({ s with links }.decrement list)
        (q.move list (before ++ after) skb none) := by
  have ring := represents.1.ring found
  rw [List.map_append, List.map_cons] at ring
  obtain ⟨links, writes, ring', same⟩ := listDel_spec ring
  refine ⟨links, writes, represents.1.move found ?_ (same.mono ?_) (.inr ?_) (.inl rfl)
    (fun other => ?_) ?_, represents.2⟩
  · rwa [List.map_append]
  · rw [List.map_append, List.map_cons]
    exact List.subset_cons_self _ _
  · exact (represents.1.placed list _ skb found).mp (by simp)
  · have distinct := nodup_of_represents represents found
    grind
  · rw [represents.1.length list _ found, List.length_append, List.length_append,
      List.length_cons]
    omega

theorem skbUnlink_represents (represents : Represents heads s q)
    (found : q.content list = some buffers) (placed : q.place skb = some (some list)) :
    ∃ next, skbUnlink skb list s = some next ∧
      Represents heads next (q.move list (buffers.erase skb) skb none) := by
  have member := (represents.1.placed list buffers skb found).mpr placed
  obtain ⟨before, after, absent, rfl, erased⟩ := List.exists_erase_eq member
  obtain ⟨links, writes, represents'⟩ := listDel_represents represents found
  refine ⟨{ s with links }.decrement list, ?_, erased ▸ represents'⟩
  rw [skbUnlink, writes]
  rfl

theorem listEmpty_represents (represents : Represents heads s q)
    (found : q.content list = some buffers) :
    listEmpty s.links list = some buffers.isEmpty := by
  rw [listEmpty_eq (represents.1.ring found), List.isEmpty_map]

theorem first_represents {rest : List Nat} (represents : Represents heads s q)
    (found : q.content list = some (skb :: rest)) :
    s.links.nextOf list = some (listOf skb) :=
  (represents.1.ring found).next_eq

theorem skbPeek_represents (represents : Represents heads s q)
    (found : q.content list = some buffers) : skbPeek list s = some buffers.head? := by
  rw [skbPeek, listEmpty_represents represents found]
  cases buffers with
  | nil => rfl
  | cons skb rest =>
      rw [first_represents represents found]
      simp

/-- `skb_dequeue` of an empty queue. -/
theorem skbDequeue_nil (represents : Represents heads s q) (found : q.content list = some []) :
    skbDequeue list s = some (s, none) := by
  rw [skbDequeue, listEmpty_represents represents found]
  rfl

theorem skbDequeue_represents {rest : List Nat} (represents : Represents heads s q)
    (found : q.content list = some (skb :: rest)) :
    ∃ next, skbDequeue list s = some (next, some skb) ∧
      Represents heads next (q.move list rest skb none) := by
  rw [← List.nil_append (skb :: rest)] at found
  obtain ⟨links, writes, represents'⟩ := listDel_represents represents found
  refine ⟨{ s with links }.decrement list, ?_, represents'⟩
  rw [skbDequeue, listEmpty_represents represents found, first_represents represents found]
  simp [writes]

end Calls

/-- The calls on memory do what they do to the queues, one by one. -/
theorem memory_refines (heads : List Nat) :
    memory.Refines (queues heads) (Represents heads) := by
  intro op s q later result represents performs
  cases op with
  | queueHeadInit list =>
      obtain ⟨⟨known, empty⟩, same⟩ := Option.ite_none_right_eq_some.mp performs
      obtain ⟨rfl, rfl⟩ := Prod.mk.inj (Option.some.inj same)
      obtain ⟨next, writes, represents'⟩ := skbQueueHeadInit_represents represents known empty
      exact ⟨next, by simp only [memory, writes, Option.map_some], represents'⟩
  | alloc skb =>
      obtain ⟨⟨free, outside⟩, same⟩ := Option.ite_none_right_eq_some.mp performs
      obtain ⟨rfl, rfl⟩ := Prod.mk.inj (Option.some.inj same)
      obtain ⟨next, writes, represents'⟩ := allocSkb_represents represents free outside
      exact ⟨next, by simp only [memory, writes, Option.map_some], represents'⟩
  | kfree skb =>
      obtain ⟨alone, same⟩ := Option.ite_none_right_eq_some.mp performs
      obtain ⟨rfl, rfl⟩ := Prod.mk.inj (Option.some.inj same)
      exact ⟨kfreeSkb skb s, rfl, kfreeSkb_represents represents skb alone⟩
  | queueTail list skb =>
      obtain ⟨buffers, found, performs⟩ := Option.bind_eq_some_iff.mp performs
      obtain ⟨alone, same⟩ := Option.ite_none_right_eq_some.mp performs
      obtain ⟨rfl, rfl⟩ := Prod.mk.inj (Option.some.inj same)
      obtain ⟨next, writes, represents'⟩ := skbQueueTail_represents represents found alone
      exact ⟨next, by simp only [memory, writes, Option.map_some], represents'⟩
  | queueHead list skb =>
      obtain ⟨buffers, found, performs⟩ := Option.bind_eq_some_iff.mp performs
      obtain ⟨alone, same⟩ := Option.ite_none_right_eq_some.mp performs
      obtain ⟨rfl, rfl⟩ := Prod.mk.inj (Option.some.inj same)
      obtain ⟨next, writes, represents'⟩ := skbQueueHead_represents represents found alone
      exact ⟨next, by simp only [memory, writes, Option.map_some], represents'⟩
  | dequeue list =>
      obtain ⟨buffers, found, performs⟩ := Option.bind_eq_some_iff.mp performs
      cases buffers with
      | nil =>
          obtain ⟨rfl, rfl⟩ := Prod.mk.inj (Option.some.inj performs)
          exact ⟨s, by simp only [memory, skbDequeue_nil represents found, Option.map_some],
            represents⟩
      | cons skb rest =>
          obtain ⟨rfl, rfl⟩ := Prod.mk.inj (Option.some.inj performs)
          obtain ⟨next, takes, represents'⟩ := skbDequeue_represents represents found
          exact ⟨next, by simp only [memory, takes, Option.map_some], represents'⟩
  | unlink skb list =>
      obtain ⟨buffers, found, performs⟩ := Option.bind_eq_some_iff.mp performs
      obtain ⟨placed, same⟩ := Option.ite_none_right_eq_some.mp performs
      obtain ⟨rfl, rfl⟩ := Prod.mk.inj (Option.some.inj same)
      obtain ⟨next, writes, represents'⟩ := skbUnlink_represents represents found placed
      exact ⟨next, by simp only [memory, writes, Option.map_some], represents'⟩
  | peek list =>
      obtain ⟨buffers, found, same⟩ := Option.bind_eq_some_iff.mp performs
      obtain ⟨rfl, rfl⟩ := Prod.mk.inj (Option.some.inj same)
      exact ⟨s, by simp only [memory, skbPeek_represents represents found, Option.map_some],
        represents⟩
  | queueLen list =>
      obtain ⟨buffers, found, same⟩ := Option.bind_eq_some_iff.mp performs
      obtain ⟨rfl, rfl⟩ := Prod.mk.inj (Option.some.inj same)
      exact ⟨s, by simp only [memory, represents.1.length list buffers found], represents⟩
  | queueEmpty list =>
      obtain ⟨buffers, found, same⟩ := Option.bind_eq_some_iff.mp performs
      obtain ⟨rfl, rfl⟩ := Prod.mk.inj (Option.some.inj same)
      exact ⟨s, by simp only [memory, listEmpty_represents represents found, Option.map_some],
        represents⟩

/-- The memory of the queue heads, zeroed, before the first call. -/
def zeroed (heads : List Nat) : SkbMemory where
  links node := if node ∈ heads then some ⟨0, 0⟩ else none
  qlen _ := 0
  freed := []

/-- No queue and no buffer. -/
def Queues.initial : Queues where
  content _ := none
  place _ := none
  freed := []

theorem zeroed_represents (heads : List Nat) :
    Represents heads (zeroed heads) Queues.initial := by
  refine ⟨⟨⟨nofun, nofun⟩, nofun, nofun, fun list known => ?_, nofun, nofun, nofun⟩, rfl⟩
  exact Option.isSome_of_eq_some (if_pos known)

theorem run_represents {heads : List Nat} {calls : List Op} {last : Queues}
    {results : List Result}
    (runs : (queues heads).run calls Queues.initial = some (last, results)) :
    ∃ s, memory.run calls (zeroed heads) = some (s, results) ∧ Represents heads s last :=
  (memory_refines heads).run (zeroed_represents heads) runs

/-- However the calls on any number of queues follow one another, as long as they are allowed,
memory performs them all with the results of the lists: no pointer is read outside the buffers
and heads in use, and each `qlen` is the length of its list modulo its width. -/
theorem calls_agree_with_lists (heads : List Nat) (calls : List Op) {last : Queues}
    {results : List Result}
    (runs : (queues heads).run calls Queues.initial = some (last, results)) :
    ∃ s, memory.run calls (zeroed heads) = some (s, results) ∧ s.freed = last.freed ∧
      ∀ list buffers, last.content list = some buffers →
        Ring s.links list (buffers.map listOf) ∧ s.qlen list = buffers.length % 2 ^ 32 := by
  obtain ⟨s, performs, related, freed⟩ := run_represents runs
  exact ⟨s, performs, freed, fun list buffers found =>
    ⟨related.ring found, related.length list buffers found⟩⟩

theorem calls_agree_with_lists_two_buffers :
    ∃ s, memory.run [.queueHeadInit 8, .alloc 1000, .queueTail 8 1000, .alloc 2000,
        .queueHead 8 2000, .dequeue 8, .kfree 2000, .unlink 1000 8, .dequeue 8, .queueLen 8]
        (zeroed [8]) = some (s, [.done, .done, .done, .done, .done, .buffer (some 2000), .done,
          .done, .buffer none, .length 0]) := by
  obtain ⟨s, performs, -⟩ := calls_agree_with_lists [8] [.queueHeadInit 8, .alloc 1000,
    .queueTail 8 1000, .alloc 2000, .queueHead 8 2000, .dequeue 8, .kfree 2000, .unlink 1000 8,
    .dequeue 8, .queueLen 8] rfl
  exact ⟨s, performs⟩

/-! ## Emptying a queue -/

/-- What is left when the buffers of a queue are freed. -/
def Queues.purge (q : Queues) (list : Nat) (buffers : List Nat) : Queues where
  content := Function.update q.content list (some [])
  place skb := if skb ∈ buffers then none else q.place skb
  freed := q.freed ++ buffers

theorem skbQueuePurge_represents {heads : List Nat} {s : SkbMemory} {q : Queues} {list : Nat}
    {buffers : List Nat} (represents : Represents heads s q)
    (found : q.content list = some buffers) {bound : Nat} (enough : buffers.length < bound) :
    ∃ last, skbQueuePurge list bound s = some last ∧
      Represents heads last (q.purge list buffers) := by
  induction buffers generalizing s q bound with
  | nil =>
      obtain ⟨bound, rfl⟩ := Nat.exists_eq_add_one.mpr enough
      refine ⟨s, ?_, ?_⟩
      · rw [skbQueuePurge, skbDequeue_nil represents found]
        rfl
      · have same : q.purge list [] = q := by
          simp only [Queues.purge, ← found, Function.update_eq_self, List.append_nil]
          simp
        rwa [same]
  | cons skb rest ih =>
      obtain ⟨bound, rfl⟩ := Nat.exists_eq_add_one.mpr (Nat.zero_lt_of_lt enough)
      obtain ⟨next, takes, represents'⟩ := skbDequeue_represents represents found
      have freed := kfreeSkb_represents represents' skb
        (by simp [Queues.move])
      obtain ⟨last, purges, purged⟩ := ih freed (by simp [Queues.move])
        (Nat.lt_of_succ_lt_succ enough)
      refine ⟨last, ?_, ?_⟩
      · rw [skbQueuePurge, takes]
        exact purges
      · have same : Queues.purge { q.move list rest skb none with
            place := Function.update (q.move list rest skb none).place skb none
            freed := (q.move list rest skb none).freed ++ [skb] } list rest =
              q.purge list (skb :: rest) := by
          simp only [Queues.purge, Queues.move, Function.update_idem, List.append_assoc,
            List.singleton_append, Queues.mk.injEq, true_and, and_true]
          funext other
          by_cases own : other = skb <;> simp [own]
        rwa [← same]

/-! ## Walking along a queue -/

/-- The loop of `skb_queue_walk_safe`, which has the list nodes of `skb` and `tmp`. -/
def skbQueueWalkSafe (list : Nat) (visit : Nat → SkbMemory → Option SkbMemory) (bound : Nat)
    (s : SkbMemory) : Option SkbMemory := do
  let skb ← s.links.nextOf list
  let tmp ← s.links.nextOf skb
  walkSafe SkbMemory.links (fun node => visit (containerOf node)) list bound skb tmp s

/-- A visit that takes some of the buffers out of the queue and frees them. -/
def freeIf (takes : Nat → Bool) (list skb : Nat) (s : SkbMemory) : Option SkbMemory :=
  if takes skb then (skbUnlink skb list s).map (kfreeSkb skb) else some s

/-- Some of the buffers of a queue were freed among those that were visited. -/
def Queues.purgeIf (q : Queues) (list : Nat) (takes : Nat → Bool) (visited later : List Nat) :
    Queues where
  content := Function.update q.content list
    (some (visited.filter (fun skb => !takes skb) ++ later))
  place skb := if skb ∈ visited ∧ takes skb then none else q.place skb
  freed := q.freed ++ visited.filter takes

variable {heads : List Nat} {q : Queues} {list : Nat} {buffers : List Nat}

/-- The next buffer is visited. -/
theorem freeIf_represents {s : SkbMemory} {takes : Nat → Bool} {visited later : List Nat}
    {skb : Nat} (represents : Represents heads s (q.purgeIf list takes visited (skb :: later))) :
    ∃ next, freeIf takes list skb s = some next ∧
      Represents heads next (q.purgeIf list takes (visited ++ [skb]) later) := by
  have found : (q.purgeIf list takes visited (skb :: later)).content list =
      some (visited.filter (fun skb => !takes skb) ++ skb :: later) := Function.update_self ..
  cases taken : takes skb with
  | false =>
      refine ⟨s, by rw [freeIf, taken, if_neg (by simp)], ?_⟩
      have same : q.purgeIf list takes (visited ++ [skb]) later =
          q.purgeIf list takes visited (skb :: later) := by
        simp only [Queues.purgeIf, Queues.mk.injEq]
        refine ⟨by simp [taken], ?_, by simp [taken]⟩
        funext other
        by_cases own : other = skb <;> simp [own, taken]
      rwa [same]
  | true =>
      obtain ⟨links, writes, represents'⟩ := listDel_represents represents found
      have freed := kfreeSkb_represents represents' skb (by simp [Queues.move])
      refine ⟨kfreeSkb skb ({ s with links }.decrement list), ?_, ?_⟩
      · rw [freeIf, taken, if_pos rfl, skbUnlink, writes]
        rfl
      · convert freed using 1
        simp only [Queues.purgeIf, Queues.move, Queues.mk.injEq, Function.update_idem]
        refine ⟨by simp [taken], ?_, by simp [taken]⟩
        funext other
        by_cases own : other = skb <;> simp [own, taken]

/-- Visited and other buffers of the queue, for the loop. -/
def Walked (heads : List Nat) (q : Queues) (list : Nat) (buffers : List Nat) (takes : Nat → Bool)
    (s : SkbMemory) (before after : List Nat) : Prop :=
  ∃ visited later, buffers = visited ++ later ∧
    before = (visited.filter fun skb => !takes skb).map listOf ∧ after = later.map listOf ∧
    Represents heads s (q.purgeIf list takes visited later)

theorem freeIf_visits (heads : List Nat) (q : Queues) (list : Nat) (buffers : List Nat)
    (takes : Nat → Bool) :
    Visits SkbMemory.links (fun node => freeIf takes list (containerOf node)) list
      (fun node => !takes (containerOf node)) (Walked heads q list buffers takes) where
  ring s before after := by
    rintro ⟨visited, later, rfl, rfl, rfl, represents⟩
    rw [← List.map_append]
    exact represents.1.ring (Function.update_self ..)
  visits s before node after := by
    rintro ⟨visited, later, split, rfl, moved, represents⟩
    obtain ⟨skb, later, rfl, rfl, rfl⟩ := List.map_eq_cons_iff.mp moved.symm
    obtain ⟨next, visits, represents'⟩ := freeIf_represents represents
    refine ⟨next, by rwa [containerOf_listOf], visited ++ [skb], later, ?_, ?_, rfl, represents'⟩
    · rw [split, List.append_assoc, List.singleton_append]
    · cases taken : takes skb <;> simp [taken]

/-- A walk that frees some buffers ends, and exactly these are freed, once and in order. -/
theorem skbQueueWalkSafe_represents {s : SkbMemory} (represents : Represents heads s q)
    (found : q.content list = some buffers) (takes : Nat → Bool) {bound : Nat}
    (enough : buffers.length ≤ bound) :
    ∃ last, skbQueueWalkSafe list (freeIf takes list) bound s = some last ∧
      Represents heads last (q.purgeIf list takes buffers []) := by
  have initially : Walked heads q list buffers takes s [] (buffers.map listOf) := by
    refine ⟨[], buffers, rfl, rfl, rfl, ?_⟩
    have same : q.purgeIf list takes [] buffers = q := by
      simp [Queues.purgeIf, ← found]
    rwa [same]
  have ring := represents.1.ring found
  have member : (buffers.map listOf).headD list ∈ list :: buffers.map listOf := by
    cases buffers <;> simp
  obtain ⟨pointers, reads⟩ := Option.isSome_iff_exists.mp (ring.allocated _ member)
  obtain ⟨last, walks, visited, later, split, -, ends, represents'⟩ :=
    (freeIf_visits heads q list buffers takes).walkSafe_eq initially
      (Links.nextOf_of_eq reads) bound (by simpa using enough)
  obtain rfl : later = [] := List.map_eq_nil_iff.mp ends.symm
  rw [List.append_nil] at split
  refine ⟨last, ?_, split ▸ represents'⟩
  rw [skbQueueWalkSafe, ring.next_eq, Option.bind_eq_bind, Option.bind_some,
    Links.nextOf_of_eq reads]
  exact walks

/-! ## Freeing buffers at the end of any run -/

/-- After any allowed calls a queue can be purged, or walked along while some of its buffers are
unlinked and freed.  Each of these buffers is freed once, in order, and nothing else changes. -/
theorem purge_and_walk_free_in_order (heads : List Nat) (calls : List Op) {last : Queues}
    {results : List Result} (list : Nat) (buffers : List Nat)
    (runs : (queues heads).run calls Queues.initial = some (last, results))
    (found : last.content list = some buffers) (takes : Nat → Bool) :
    ∃ s, memory.run calls (zeroed heads) = some (s, results) ∧
      (∀ bound > buffers.length, ∃ purged, skbQueuePurge list bound s = some purged ∧
        purged.freed = s.freed ++ buffers ∧ Represents heads purged (last.purge list buffers)) ∧
      ∀ bound ≥ buffers.length, ∃ walked,
        skbQueueWalkSafe list (freeIf takes list) bound s = some walked ∧
        walked.freed = s.freed ++ buffers.filter takes ∧
        Represents heads walked (last.purgeIf list takes buffers []) := by
  obtain ⟨s, performs, represents⟩ := run_represents runs
  refine ⟨s, performs, fun bound enough => ?_, fun bound enough => ?_⟩
  · obtain ⟨purged, purges, represents'⟩ := skbQueuePurge_represents represents found enough
    refine ⟨purged, purges, ?_, represents'⟩
    rw [represents'.2, represents.2]
    rfl
  · obtain ⟨walked, walks, represents'⟩ :=
      skbQueueWalkSafe_represents represents found takes enough
    refine ⟨walked, walks, ?_, represents'⟩
    rw [represents'.2, represents.2]
    rfl

theorem purge_and_walk_free_in_order_two_buffers :
    ∃ s, memory.run [.queueHeadInit 8, .alloc 1000, .queueTail 8 1000, .alloc 2000,
        .queueTail 8 2000] (zeroed [8]) = some (s, [.done, .done, .done, .done, .done]) ∧
      ∃ walked, skbQueueWalkSafe 8 (freeIf (· == 1000) 8) 2 s = some walked ∧
        walked.freed = s.freed ++ [1000] := by
  obtain ⟨s, performs, -, walk⟩ := purge_and_walk_free_in_order [8]
    [.queueHeadInit 8, .alloc 1000, .queueTail 8 1000, .alloc 2000, .queueTail 8 2000] 8
    [1000, 2000] rfl rfl (· == 1000)
  obtain ⟨walked, walks, freed, -⟩ := walk 2 (by decide)
  exact ⟨s, performs, walked, walks, freed⟩

end SkbQueue

end AirportRtw88
