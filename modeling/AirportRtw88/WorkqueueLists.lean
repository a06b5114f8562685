import AirportRtw88.ListHead
import AirportRtw88.WorkqueueSafety

/-!
# The list nodes of the workqueues

The queues of `rtw88_compat.c` are circular lists through the `entry` nodes of the work items.
The file follows the nodes in memory along the runs of the workqueues.
-/

namespace AirportRtw88

open Heap Interleave ListHead

namespace Workqueue

variable {Queue Item Thread : Type}

/-- Where the nodes `wq->queue` and `work->entry` are. -/
structure Layout (Queue Item : Type) where
  queueNode : Queue → Nat
  entryNode : Item → Nat
  distinct : Function.Injective (Sum.elim queueNode entryNode)

/-- A call of a list function in `rtw88_compat.c`. -/
inductive ListCall (Queue Item : Type) where
  | keep
  | addTail (queue : Queue) (item : Item)
  | takeFirst (queue : Queue)
  | remove (item : Item)

namespace ListCall

/-- What a call does to the nodes.  A worker reads the first entry from the head. -/
def onLinks (layout : Layout Queue Item) : ListCall Queue Item → Links → Option Links
  | .keep, links => some links
  | .addTail queue item, links =>
      listAddTail links (layout.entryNode item) (layout.queueNode queue)
  | .takeFirst queue, links => do
      if ← listEmpty links (layout.queueNode queue) then none
      let first ← links.nextOf (layout.queueNode queue)
      listDelInit links first
  | .remove item, links => listDelInit links (layout.entryNode item)

variable [DecidableEq Queue] [DecidableEq Item]

/-- What a call does to the lists of the items. -/
def onLists : ListCall Queue Item → (Queue → List Item) → Queue → List Item
  | .keep, lists => lists
  | .addTail queue item, lists => Function.update lists queue (lists queue ++ [item])
  | .takeFirst queue, lists => Function.update lists queue (lists queue).tail
  | .remove item, lists => fun queue => (lists queue).erase item

/-- What the list functions rely on. -/
def Allowed (lists : Queue → List Item) : ListCall Queue Item → Prop
  | .keep => True
  | .addTail _ item => ∀ queue, item ∉ lists queue
  | .takeFirst queue => lists queue ≠ []
  | .remove item => ∃ queue, item ∈ lists queue

end ListCall

/-- The lists of a state. -/
def State.lists (s : State Queue Item Thread) (queue : Queue) : List Item :=
  (s.queues queue).queue

section

variable [DecidableEq Queue] [DecidableEq Item] [DecidableEq Thread]

/-- The list call of `remove_pending_work`. -/
def State.removal (s : State Queue Item Thread) (item : Item) : ListCall Queue Item :=
  if (s.work item).pending = .queued then .remove item else .keep

/-- The list call of `queue_work_locked`. -/
def State.enqueueing (s : State Queue Item Thread) (queue : Queue) (item : Item) :
    ListCall Queue Item :=
  if s.admits queue item then .addTail queue item else .keep

/-- The list call of a step. -/
def listCall (s : State Queue Item Thread) : Label Queue Item Thread → ListCall Queue Item
  | .queueWork queue item => s.enqueueing queue item
  | .delayedWorkTimerFn item =>
      if (s.work item).pending = .delayed then
        match (s.work item).wq with
        | some queue => (s.expire item).enqueueing queue item
        | none => .keep
      else .keep
  | .takeWork queue => .takeFirst queue
  | .cancelDelayedWork item => s.removal item
  | .begin _ (.cancelWork item) => s.removal item
  | .begin _ (.deleteTimer item) => s.removal item
  | _ => .keep

/-- The steps of the queues with their nodes in memory. -/
def linked (layout : Layout Queue Item) :
    Machine (Label Queue Item Thread) (State Queue Item Thread × Links) where
  step label before := do
    let after ← step label before.1
    let links ← (listCall before.1 label).onLinks layout before.2
    return (after, links)

/-! ## Which lists a step changes -/

namespace State

variable {s t : State Queue Item Thread}

omit [DecidableEq Thread] in
theorem lists_queueWorkLocked (s : State Queue Item Thread) (queue : Queue) (item : Item) :
    (s.queueWorkLocked queue item).1.lists = (s.enqueueing queue item).onLists s.lists := by
  rw [queueWorkLocked, enqueueing]
  split
  · funext other
    by_cases own : other = queue
    · subst own
      simp [lists, setQueue, ListCall.onLists]
    · simp [lists, setQueue, setWork, setEntry, ListCall.onLists, own]
  · rfl

omit [DecidableEq Thread] in
theorem lists_removePendingWork (s : State Queue Item Thread) (item : Item) :
    (s.removePendingWork item).lists = (s.removal item).onLists s.lists := by
  by_cases queued : (s.items item).work.pending = .queued
  · simp only [removePendingWork, removal, State.work, queued, if_true]
    rfl
  · simp only [removePendingWork, removal, State.work, queued, if_false]
    rfl

omit [DecidableEq Thread] in
theorem lists_beginCancel (s : State Queue Item Thread) (item : Item) :
    (s.beginCancel item).lists = (s.removal item).onLists s.lists := by
  have pending : ((s.setCanceling item true).work item).pending = (s.work item).pending := by
    simp [setCanceling, setWork, work_setEntry]
  rw [beginCancel, lists_removePendingWork, removal, removal, pending]
  rfl

omit [DecidableEq Queue] in
theorem lists_await (s : State Queue Item Thread) (thread : Thread) (call : Call Queue Item) :
    (s.await thread call).lists = s.lists := by
  rw [await]
  split
  · rfl
  · cases call <;> rfl

omit [DecidableEq Item] [DecidableEq Thread] in
theorem lists_setQueue (s : State Queue Item Thread) (queue : Queue) (wq : Wq Item) :
    (s.setQueue queue wq).lists = Function.update s.lists queue wq.queue := by
  funext other
  by_cases own : other = queue
  · subst own
    simp [lists, setQueue]
  · simp [lists, setQueue, own]

omit [DecidableEq Thread] in
theorem lists_queueDelayedWork (s : State Queue Item Thread) (queue : Queue) (item : Item)
    (allocates : Bool) : (s.queueDelayedWork queue item allocates).1.lists = s.lists := by
  unfold queueDelayedWork assignDelayed
  dsimp only
  split
  · split <;> split <;> rfl
  · rfl

end State

theorem step_lists {label : Label Queue Item Thread} {s t : State Queue Item Thread}
    (taken : step label s = some t) : t.lists = (listCall s label).onLists s.lists := by
  cases label with
  | queueWork queue item =>
      obtain rfl := Option.some.inj taken
      have same := s.lists_queueWorkLocked queue item
      simp only [State.queueWork, listCall]
      split <;> exact same
  | queueDelayedWork queue item allocates =>
      obtain rfl := Option.some.inj taken
      exact s.lists_queueDelayedWork queue item allocates
  | delayedWorkTimerFn item =>
      obtain rfl := Option.some.inj taken
      simp only [State.delayedWorkTimerFn, listCall]
      split
      · cases assigned : (s.work item).wq with
        | some queue => exact (s.expire item).lists_queueWorkLocked queue item
        | none => rfl
      · rfl
  | takeWork queue =>
      simp only [step, State.takeWork] at taken
      split at taken
      case h_1 item rest waiting first =>
        obtain rfl := Option.some.inj taken
        rw [State.lists_setQueue]
        simp only [listCall, ListCall.onLists, State.lists, first, List.tail_cons]
        rfl
      case h_2 => cases taken
  | finishWork queue =>
      simp only [step, State.finishWork] at taken
      split at taken
      · obtain rfl := Option.some.inj taken
        rw [State.lists_setQueue]
        exact Function.update_eq_self queue s.lists
      · cases taken
  | exitWorker queue =>
      simp only [step, State.exitWorker] at taken
      split at taken
      · obtain rfl := Option.some.inj taken
        rw [State.lists_setQueue]
        exact Function.update_eq_self queue s.lists
      · cases taken
  | cancelDelayedWork item =>
      obtain rfl := Option.some.inj taken
      exact s.lists_removePendingWork item
  | begin thread call =>
      simp only [step] at taken
      split at taken
      · cases call with
        | cancelWork item =>
            obtain rfl := Option.some.inj taken
            rw [State.lists_await, State.lists_beginCancel]
            rfl
        | deleteTimer item =>
            obtain rfl := Option.some.inj taken
            exact s.lists_beginCancel item
        | flushQueue | flushWork =>
            obtain rfl := Option.some.inj taken
            exact s.lists_await thread _
        | destroyQueue queue =>
            obtain rfl := Option.some.inj taken
            rw [State.lists_await, State.lists_setQueue]
            exact Function.update_eq_self queue s.lists
        | stopTimer | freedTimer | cancelDelayed => cases taken
      · cases taken
  | goOn thread =>
      obtain ⟨call, -, rfl⟩ := Option.map_eq_some_iff.mp taken
      cases call with
      | deleteTimer item =>
          simp only [State.goOn]
          split <;> rfl
      | stopTimer | freedTimer => rfl
      | cancelWork | cancelDelayed | flushQueue | flushWork | destroyQueue =>
          exact s.lists_await thread _

/-! ## The nodes follow the lists -/

/-- The nodes of the entries of each list are its ring. -/
structure Follows (layout : Layout Queue Item) (lists : Queue → List Item) (links : Links) :
    Prop where
  rings : Rings links layout.queueNode fun queue => some ((lists queue).map layout.entryNode)
  entries : ∀ item, (links (layout.entryNode item)).isSome

namespace Follows

variable {layout : Layout Queue Item} {lists : Queue → List Item} {links : Links}

omit [DecidableEq Queue] [DecidableEq Item] in
theorem ring (follows : Follows layout lists links) (queue : Queue) :
    Ring links (layout.queueNode queue) ((lists queue).map layout.entryNode) :=
  follows.rings.ring queue _ rfl

omit [DecidableEq Queue] [DecidableEq Item] in
/-- An item that is not on a list is not in its ring. -/
theorem not_mem (layout : Layout Queue Item) (item : Item) (queue : Queue)
    (absent : item ∉ lists queue) :
    layout.entryNode item ∉ layout.queueNode queue :: (lists queue).map layout.entryNode := by
  have injective : Function.Injective layout.entryNode := layout.distinct.comp Sum.inr_injective
  rw [List.mem_cons, List.mem_map_of_injective injective, not_or]
  refine ⟨fun same => ?_, absent⟩
  have equal := @layout.distinct (.inr item) (.inl queue) same
  cases equal

omit [DecidableEq Item] in
/-- One list changes with its ring. -/
theorem change (follows : Follows layout lists links) {links' : Links} {queue : Queue}
    {items : List Item} {touched : List Nat}
    (ring : Ring links' (layout.queueNode queue) (items.map layout.entryNode))
    (same : links'.SameOutside links touched) (inside : layout.queueNode queue ∈ touched)
    (away : ∀ other, other ≠ queue → List.Disjoint (touched ++ items.map layout.entryNode)
      (layout.queueNode other :: (lists other).map layout.entryNode)) :
    Follows layout (Function.update lists queue items) links' where
  rings := by
    have content : (fun other => some ((Function.update lists queue items other).map
        layout.entryNode)) = Function.update (fun other => some ((lists other).map
          layout.entryNode)) queue (some (items.map layout.entryNode)) := by
      funext other
      by_cases own : other = queue
      · subst own
        simp
      · simp [own]
    rw [content]
    refine follows.rings.change ring same (fun other others found differs => ?_) inside
    exact Option.some.inj found ▸ away other differs
  entries item := (same.2 _).trans (follows.entries item)

omit [DecidableEq Queue] [DecidableEq Item] in
theorem apart (follows : Follows layout lists links) {queue other : Queue}
    (differs : other ≠ queue) :
    List.Disjoint (layout.queueNode queue :: (lists queue).map layout.entryNode)
      (layout.queueNode other :: (lists other).map layout.entryNode) :=
  follows.rings.apart queue other _ _ rfl rfl differs.symm

omit [DecidableEq Item] in
theorem addTail (follows : Follows layout lists links) (queue : Queue) (item : Item)
    (absent : ∀ queue, item ∉ lists queue) :
    ∃ links', listAddTail links (layout.entryNode item) (layout.queueNode queue) = some links' ∧
      Follows layout (Function.update lists queue (lists queue ++ [item])) links' := by
  obtain ⟨links', writes, ring, same⟩ := listAddTail_spec (follows.ring queue)
    (not_mem layout item queue (absent queue)) (follows.entries item)
  refine ⟨links', writes, follows.change (by rwa [List.map_append]) same (by simp) ?_⟩
  intro other differs node member member'
  have separate := follows.apart differs
  have alone := not_mem layout item other (absent other)
  simp only [List.map_append, List.map_cons, List.map_nil] at member
  have moved : node = layout.entryNode item ∨
      node ∈ layout.queueNode queue :: (lists queue).map layout.entryNode := by
    grind
  rcases moved with rfl | moved
  · exact alone member'
  · exact separate moved member'

omit [DecidableEq Item] in
/-- An item leaves its list. -/
theorem remove (follows : Follows layout lists links) {queue : Queue} {item : Item}
    {before after : List Item} (found : lists queue = before ++ item :: after) :
    ∃ links', listDelInit links (layout.entryNode item) = some links' ∧
      Follows layout (Function.update lists queue (before ++ after)) links' := by
  have ring := follows.ring queue
  rw [found, List.map_append, List.map_cons] at ring
  obtain ⟨links', writes, ring', same⟩ := listDelInit_spec ring
  refine ⟨links', writes, follows.change (by rwa [List.map_append]) same (by simp) ?_⟩
  intro other differs node member member'
  have separate := follows.apart differs
  rw [found, List.map_append, List.map_cons] at separate
  rw [List.map_append] at member
  exact separate (by grind) member'

/-- An item is on one list, once. -/
theorem erase_eq (follows : Follows layout lists links) {queue : Queue} {item : Item}
    {before after : List Item} (found : lists queue = before ++ item :: after) :
    (fun other => (lists other).erase item) =
      Function.update lists queue (before ++ after) := by
  funext other
  by_cases own : other = queue
  · subst own
    have distinct : (lists other).Nodup := (follows.ring other).nodup.of_cons.of_map
    rw [Function.update_self, found, List.erase_append_right _ (by grind), List.erase_cons_head]
  · rw [Function.update_of_ne own, List.erase_of_not_mem]
    intro member
    refine follows.apart own (List.mem_cons_of_mem _ (List.mem_map_of_mem (a := item) ?_))
      (List.mem_cons_of_mem _ (List.mem_map_of_mem member))
    rw [found]
    simp

/-- The nodes do what the lists do. -/
theorem onLinks (follows : Follows layout lists links) {call : ListCall Queue Item}
    (allowed : call.Allowed lists) :
    ∃ links', call.onLinks layout links = some links' ∧
      Follows layout (call.onLists lists) links' := by
  cases call with
  | keep => exact ⟨links, rfl, follows⟩
  | addTail queue item => exact follows.addTail queue item allowed
  | takeFirst queue =>
      obtain ⟨item, rest, found⟩ := List.exists_cons_of_ne_nil allowed
      have inFront : lists queue = [] ++ item :: rest := found
      obtain ⟨links', writes, follows'⟩ := follows.remove inFront
      have first := (follows.ring queue).next_eq
      refine ⟨links', ?_, by rwa [ListCall.onLists, found]⟩
      rw [ListCall.onLinks, listEmpty_eq (follows.ring queue), first, found]
      exact writes
  | remove item =>
      obtain ⟨queue, member⟩ := allowed
      obtain ⟨before, after, found⟩ := List.append_of_mem member
      obtain ⟨links', writes, follows'⟩ := follows.remove found
      refine ⟨links', writes, ?_⟩
      rwa [ListCall.onLists, follows.erase_eq found]

end Follows

omit [DecidableEq Queue] [DecidableEq Item] in
/-- After `INIT_LIST_HEAD` every node is its own ring. -/
theorem follows_initialised (layout : Layout Queue Item) :
    Follows layout (fun _ => []) fun node => some ⟨node, node⟩ where
  rings := by
    refine ⟨fun queue nodes found => ?_, fun queue other nodes others found found' differs => ?_⟩
    · obtain rfl := Option.some.inj found
      exact ⟨⟨rfl, rfl⟩, by simp⟩
    · obtain rfl := Option.some.inj found
      obtain rfl := Option.some.inj found'
      have apart : layout.queueNode queue ≠ layout.queueNode other := fun same =>
        differs (layout.distinct.comp Sum.inl_injective same)
      simpa using apart.symm
  entries _ := rfl

/-! ## Runs -/

omit [DecidableEq Queue] [DecidableEq Item] [DecidableEq Thread] in
theorem State.Sound.removal_allowed {s : State Queue Item Thread} (sound : s.Sound) (item : Item) :
    (s.removal item).Allowed s.lists := by
  rw [State.removal]
  split
  case isTrue queued =>
    obtain ⟨queue, assigned⟩ := sound.consistent.assigned item (.inr queued)
    exact ⟨queue, (sound.consistent.listed queue item).mpr ⟨queued, assigned⟩⟩
  case isFalse => trivial

omit [DecidableEq Item] [DecidableEq Thread] in
theorem State.enqueueing_allowed {s : State Queue Item Thread} {lists : Queue → List Item}
    (queue : Queue) (item : Item) (free : s.admits queue item → ∀ queue, item ∉ lists queue) :
    (s.enqueueing queue item).Allowed lists := by
  rw [State.enqueueing]
  split
  case isTrue admitted => exact free admitted
  case isFalse => trivial

/-- A step calls the list functions where it may. -/
theorem State.Sound.listCall_allowed {s t : State Queue Item Thread}
    {label : Label Queue Item Thread} (sound : s.Sound) (taken : step label s = some t) :
    (listCall s label).Allowed s.lists := by
  have listed : ∀ item queue, item ∈ s.lists queue → (s.work item).pending = .queued :=
    fun item queue member => ((sound.consistent.listed queue item).mp member).1
  cases label with
  | queueWork queue item =>
      refine State.enqueueing_allowed queue item fun admitted other member => ?_
      obtain ⟨-, free, -⟩ := State.of_admits admitted
      rw [listed item other member] at free
      cases free
  | delayedWorkTimerFn item =>
      simp only [listCall]
      split
      case isTrue delayed =>
        cases (s.work item).wq with
        | none => trivial
        | some queue =>
            refine State.enqueueing_allowed queue item fun _ other member => ?_
            rw [listed item other member] at delayed
            cases delayed
      case isFalse => trivial
  | takeWork queue =>
      simp only [step, State.takeWork] at taken
      split at taken
      case h_1 item rest waiting first =>
        simp only [listCall, ListCall.Allowed, State.lists, first]
        exact List.cons_ne_nil item rest
      case h_2 => cases taken
  | cancelDelayedWork item => exact sound.removal_allowed item
  | begin thread call =>
      cases call with
      | cancelWork item | deleteTimer item => exact sound.removal_allowed item
      | stopTimer | freedTimer | cancelDelayed | flushQueue | flushWork | destroyQueue => trivial
  | queueDelayedWork | finishWork | exitWorker | goOn => trivial

theorem linked_step (layout : Layout Queue Item) {label : Label Queue Item Thread}
    {s t : State Queue Item Thread} {links : Links} (sound : s.Sound)
    (follows : Follows layout s.lists links) (taken : step label s = some t) :
    ∃ links', (linked layout).step label (s, links) = some (t, links') ∧
      Follows layout t.lists links' := by
  obtain ⟨links', writes, follows'⟩ := follows.onLinks (sound.listCall_allowed taken)
  refine ⟨links', ?_, by rwa [step_lists taken]⟩
  simp only [linked, taken, writes, Option.bind_eq_bind, Option.bind_some]
  rfl

theorem linked_play (layout : Layout Queue Item) {labels : List (Label Queue Item Thread)}
    {s t : State Queue Item Thread} {links : Links} (sound : s.Sound)
    (follows : Follows layout s.lists links) (keeps : machine.Keeps destroysLast labels s)
    (plays : machine.play labels s = some t) :
    ∃ links', (linked layout).play labels (s, links) = some (t, links') ∧
      Follows layout t.lists links' := by
  induction labels generalizing s links with
  | nil =>
      obtain rfl := Option.some.inj plays
      exact ⟨links, rfl, follows⟩
  | cons label rest ih =>
      obtain ⟨next, taken, onward⟩ := Option.bind_eq_some_iff.mp plays
      obtain ⟨between, writes, follows'⟩ := linked_step layout sound follows taken
      obtain ⟨links', played, follows''⟩ := ih (step_sound keeps.1 taken sound) follows'
        (keeps.2 next taken) onward
      refine ⟨links', ?_, follows''⟩
      rw [Machine.play, writes, Option.bind_some, played]

/-- Along every run in which delayed work is cancelled before its queue is destroyed, the list
functions find their nodes, each queue is the ring of its items in order, `list_empty` tells
whether there are any, and `queue.next` is the entry that the worker takes. -/
theorem nodes_follow_lists (layout : Layout Queue Item) {links : Links}
    (empty : Follows layout (fun _ => []) links) {labels : List (Label Queue Item Thread)}
    {s : State Queue Item Thread} (keeps : machine.Keeps destroysLast labels .initial)
    (plays : machine.play labels .initial = some s) :
    ∃ links', (linked layout).play labels (.initial, links) = some (s, links') ∧
      ∀ queue, Ring links' (layout.queueNode queue) ((s.lists queue).map layout.entryNode) ∧
        listEmpty links' (layout.queueNode queue) = some (s.lists queue).isEmpty ∧
        ∀ item rest, s.lists queue = item :: rest →
          links'.nextOf (layout.queueNode queue) = some (layout.entryNode item) := by
  have sound : (State.initial : State Queue Item Thread).Sound :=
    reaches_sound (fun _ _ allowed => allowed) .refl
  obtain ⟨links', plays', follows⟩ := linked_play layout sound empty keeps plays
  refine ⟨links', plays', fun queue => ⟨follows.ring queue, ?_, fun item rest found => ?_⟩⟩
  · rw [listEmpty_eq (follows.ring queue), List.isEmpty_map]
  · rw [(follows.ring queue).next_eq, found]
    rfl

/-- Two items are queued, one is taken, the other is cancelled. -/
theorem nodes_follow_lists_cancelled :
    ∃ links', (linked ⟨fun _ : Unit => 0, fun item : Bool => 1 + item.toNat,
        by decide⟩).play ([.queueWork () true, .queueWork () false, .takeWork (),
          .cancelDelayedWork false] : List (Label Unit Bool Unit))
          (.initial, fun node => some ⟨node, node⟩) =
        some ((machine.play [.queueWork () true, .queueWork () false, .takeWork (),
          .cancelDelayedWork false] .initial).get rfl, links') := by
  have keeps : machine.Keeps destroysLast ([.queueWork () true, .queueWork () false, .takeWork (),
      .cancelDelayedWork false] : List (Label Unit Bool Unit)) .initial :=
    ⟨trivial, fun _ _ => ⟨trivial, fun _ _ => ⟨trivial, fun _ _ => ⟨trivial, fun _ _ => trivial⟩⟩⟩⟩
  obtain ⟨links', plays, -⟩ := nodes_follow_lists
    ⟨fun _ : Unit => 0, fun item : Bool => 1 + item.toNat, by decide⟩
    (follows_initialised _) keeps (Option.some_get rfl).symm
  exact ⟨links', plays⟩

end

end Workqueue

end AirportRtw88
