import AirportRtw88.Interleave.Machine
import Mathlib.Logic.Function.Basic

/-!
# The workqueues of the compatibility layer

The kernel threads of `rtw88_compat.c` and their callers share one lock, and every locked
section is one step.  A call that sleeps may look at its condition again at any time.
-/

namespace AirportRtw88

open Interleave

namespace Workqueue

/-- `work->pending`: 0, 1 for a queue list, 2 for a delayed timer. -/
inductive Pending where
  | no
  | queued
  | delayed
  deriving DecidableEq

/-- `struct work_struct`. -/
structure Work (Queue : Type) where
  pending : Pending
  wq : Option Queue
  executing : Bool
  canceling : Bool

/-- A work item with the thread call of its timer, and how often it was accepted, started and
removed. -/
structure Entry (Queue : Type) where
  work : Work Queue
  timerCall : Option Nat
  accepted : Nat
  started : Nat
  removed : Nat

/-- Where the thread of a queue is in `wq_thread_fn`. -/
inductive Worker (Item : Type) where
  | waiting
  | executing (item : Item)
  | exited
  deriving DecidableEq

/-- `struct workqueue_struct`. -/
structure Wq (Item : Type) where
  queue : List Item
  running : Bool
  done : Bool
  active : Nat
  worker : Worker Item

/-- A call that is under way: in the loop of its function, or before, in or after the
`thread_call_free` of `del_timer_sync`. -/
inductive Call (Queue Item : Type) where
  | cancelWork (item : Item)
  | deleteTimer (item : Item)
  | stopTimer (item : Item)
  | freedTimer (item : Item)
  | cancelDelayed (item : Item)
  | flushQueue (queue : Queue)
  | flushWork (item : Item)
  | destroyQueue (queue : Queue)

/-- The item that a call cancels and waits for. -/
def Call.cancels {Queue Item : Type} : Call Queue Item → Option Item
  | .cancelWork item | .deleteTimer item | .stopTimer item | .freedTimer item
  | .cancelDelayed item => some item
  | _ => none

structure State (Queue Item Thread : Type) where
  items : Item → Entry Queue
  queues : Queue → Wq Item
  calls : Thread → Option (Call Queue Item)
  allocated : Nat
  freed : List Nat

/-- The steps of the producers, the timers, the workers and the callers. -/
inductive Label (Queue Item Thread : Type) where
  | queueWork (queue : Queue) (item : Item)
  | queueDelayedWork (queue : Queue) (item : Item) (allocates : Bool)
  | delayedWorkTimerFn (item : Item)
  | takeWork (queue : Queue)
  | finishWork (queue : Queue)
  | exitWorker (queue : Queue)
  | cancelDelayedWork (item : Item)
  | begin (thread : Thread) (call : Call Queue Item)
  | goOn (thread : Thread)

namespace State

variable {Queue Item Thread : Type}

/-- No item is pending, and every queue has its thread. -/
def initial : State Queue Item Thread where
  items _ := ⟨⟨.no, none, false, false⟩, none, 0, 0, 0⟩
  queues _ := ⟨[], true, false, 0, .waiting⟩
  calls _ := none
  allocated := 0
  freed := []

def work (s : State Queue Item Thread) (item : Item) : Work Queue :=
  (s.items item).work

variable [DecidableEq Queue] [DecidableEq Item] [DecidableEq Thread]

def setEntry (s : State Queue Item Thread) (item : Item) (entry : Entry Queue) :
    State Queue Item Thread :=
  { s with items := Function.update s.items item entry }

def setWork (s : State Queue Item Thread) (item : Item) (work : Work Queue) :
    State Queue Item Thread :=
  s.setEntry item { s.items item with work }

def setQueue (s : State Queue Item Thread) (queue : Queue) (wq : Wq Item) :
    State Queue Item Thread :=
  { s with queues := Function.update s.queues queue wq }

def setCall (s : State Queue Item Thread) (thread : Thread) (call : Option (Call Queue Item)) :
    State Queue Item Thread :=
  { s with calls := Function.update s.calls thread call }

/-! ## Queueing -/

/-- The checks of `queue_work_locked` and `queue_delayed_work`. -/
def admits (s : State Queue Item Thread) (queue : Queue) (item : Item) : Bool :=
  (s.queues queue).running && (s.work item).pending = .no && !(s.work item).canceling &&
    !((s.work item).executing && (s.work item).wq ≠ some queue)

/-- `queue_work_locked`. -/
def queueWorkLocked (s : State Queue Item Thread) (queue : Queue) (item : Item) :
    State Queue Item Thread × Bool :=
  if s.admits queue item then
    let wq := s.queues queue
    ((s.setWork item { s.work item with wq := some queue, pending := .queued }).setQueue queue
      { wq with queue := wq.queue ++ [item] }, true)
  else (s, false)

/-- One more queueing of an item was accepted. -/
def countAccepted (s : State Queue Item Thread) (item : Item) : State Queue Item Thread :=
  s.setEntry item { s.items item with accepted := (s.items item).accepted + 1 }

/-- `queue_work`. -/
def queueWork (s : State Queue Item Thread) (queue : Queue) (item : Item) :
    State Queue Item Thread × Bool :=
  let (queued, accepted) := s.queueWorkLocked queue item
  (if accepted then queued.countAccepted item else queued, accepted)

/-- `mod_timer` allocates the thread call of the timer, if there is none. -/
def allocateTimer (s : State Queue Item Thread) (item : Item) : State Queue Item Thread :=
  { s.setEntry item { s.items item with timerCall := some s.allocated } with
    allocated := s.allocated + 1 }

/-- The item is assigned to a queue, and its timer gets a thread call. -/
def assignDelayed (s : State Queue Item Thread) (queue : Queue) (item : Item)
    (allocates : Bool) : State Queue Item Thread :=
  let assigned := s.setWork item { s.work item with wq := some queue }
  if (s.items item).timerCall.isNone && allocates then assigned.allocateTimer item
  else assigned

/-- `queue_delayed_work` with a delay. -/
def queueDelayedWork (s : State Queue Item Thread) (queue : Queue) (item : Item)
    (allocates : Bool) : State Queue Item Thread × Bool :=
  if s.admits queue item then
    let armed := s.assignDelayed queue item allocates
    if (armed.items item).timerCall.isSome then
      ((armed.setWork item { armed.work item with pending := .delayed }).countAccepted item, true)
    else (armed, false)
  else (s, false)

/-- The item does not wait for its timer any more. -/
def expire (s : State Queue Item Thread) (item : Item) : State Queue Item Thread :=
  s.setWork item { s.work item with pending := .no }

/-- `rtw88_delayed_work_timer_fn`. -/
def delayedWorkTimerFn (s : State Queue Item Thread) (item : Item) : State Queue Item Thread :=
  if (s.work item).pending = .delayed then
    match (s.work item).wq with
    | some queue => ((s.expire item).queueWorkLocked queue item).1
    | none => s.expire item
  else s

/-! ## The workers -/

/-- A worker takes the first item of its list. -/
def takeWork (s : State Queue Item Thread) (queue : Queue) : Option (State Queue Item Thread) :=
  let wq := s.queues queue
  match wq.worker, wq.queue with
  | .waiting, item :: rest =>
      let entry := s.items item
      some ((s.setEntry item { entry with
        work := { entry.work with pending := .no, executing := true }
        started := entry.started + 1 }).setQueue queue
          { wq with queue := rest, active := wq.active + 1, worker := .executing item })
  | _, _ => none

/-- The function of the item has returned. -/
def finishWork (s : State Queue Item Thread) (queue : Queue) : Option (State Queue Item Thread) :=
  let wq := s.queues queue
  match wq.worker with
  | .executing item =>
      some ((s.setWork item { s.work item with executing := false }).setQueue queue
        { wq with active := wq.active - 1, worker := .waiting })
  | _ => none

def exitWorker (s : State Queue Item Thread) (queue : Queue) : Option (State Queue Item Thread) :=
  let wq := s.queues queue
  if wq.worker = .waiting ∧ wq.queue = [] ∧ wq.running = false then
    some (s.setQueue queue { wq with done := true, worker := .exited })
  else none

/-! ## Cancellation and flushing -/

/-- `list_del_init`. -/
def unlink (s : State Queue Item Thread) (item : Item) : State Queue Item Thread :=
  { s with
    queues := fun queue => { s.queues queue with queue := (s.queues queue).queue.erase item } }

/-- `remove_pending_work`. -/
def removePendingWork (s : State Queue Item Thread) (item : Item) : State Queue Item Thread :=
  let entry := s.items item
  let unlinked := if entry.work.pending = .queued then s.unlink item else s
  unlinked.setEntry item { entry with
    work := { entry.work with pending := .no }
    removed := if entry.work.pending = .no then entry.removed else entry.removed + 1 }

def setCanceling (s : State Queue Item Thread) (item : Item) (canceling : Bool) :
    State Queue Item Thread :=
  s.setWork item { s.work item with canceling }

/-- The first locked section of a synchronous cancellation. -/
def beginCancel (s : State Queue Item Thread) (item : Item) : State Queue Item Thread :=
  (s.setCanceling item true).removePendingWork item

/-- The condition of the loop that a call is in. -/
def blocks (s : State Queue Item Thread) : Call Queue Item → Bool
  | .cancelWork item | .cancelDelayed item => (s.work item).executing
  | .flushQueue queue => (s.queues queue).queue ≠ [] || (s.queues queue).active ≠ 0
  | .flushWork item => (s.work item).pending ≠ .no || (s.work item).executing
  | .destroyQueue queue => !(s.queues queue).done
  | .deleteTimer _ | .stopTimer _ | .freedTimer _ => false

/-- What a call does after its loop. -/
def conclude (s : State Queue Item Thread) : Call Queue Item → State Queue Item Thread
  | .cancelWork item | .cancelDelayed item => s.setCanceling item false
  | _ => s

/-- The loop of a call, once: sleep, or return. -/
def await (s : State Queue Item Thread) (thread : Thread) (call : Call Queue Item) :
    State Queue Item Thread :=
  if s.blocks call then s.setCall thread (some call)
  else (s.conclude call).setCall thread none

/-- The first locked section of a call. -/
def beginCall (s : State Queue Item Thread) (thread : Thread) :
    Call Queue Item → Option (State Queue Item Thread)
  | .cancelWork item => some ((s.beginCancel item).await thread (.cancelWork item))
  | .deleteTimer item => some ((s.beginCancel item).setCall thread (some (.deleteTimer item)))
  | .flushQueue queue => some (s.await thread (.flushQueue queue))
  | .flushWork item => some (s.await thread (.flushWork item))
  | .destroyQueue queue =>
      some ((s.setQueue queue { s.queues queue with running := false }).await thread
        (.destroyQueue queue))
  | _ => none

/-- A call that is under way goes on. -/
def goOn (s : State Queue Item Thread) (thread : Thread) :
    Call Queue Item → State Queue Item Thread
  | .deleteTimer item =>
      match (s.items item).timerCall with
      | none => s.setCall thread (some (.cancelDelayed item))
      | some _ => s.setCall thread (some (.stopTimer item))
  | .stopTimer item =>
      { s with freed := (s.items item).timerCall.toList ++ s.freed }.setCall thread
        (some (.freedTimer item))
  | .freedTimer item =>
      (s.setEntry item { s.items item with timerCall := none }).setCall thread
        (some (.cancelDelayed item))
  | call => s.await thread call

end State

variable {Queue Item Thread : Type} [DecidableEq Queue] [DecidableEq Item] [DecidableEq Thread]

def step : Label Queue Item Thread → State Queue Item Thread → Option (State Queue Item Thread)
  | .queueWork queue item, s => some (s.queueWork queue item).1
  | .queueDelayedWork queue item allocates, s => some (s.queueDelayedWork queue item allocates).1
  | .delayedWorkTimerFn item, s => some (s.delayedWorkTimerFn item)
  | .takeWork queue, s => s.takeWork queue
  | .finishWork queue, s => s.finishWork queue
  | .exitWorker queue, s => s.exitWorker queue
  | .cancelDelayedWork item, s => some (s.removePendingWork item)
  | .begin thread call, s =>
      match s.calls thread with
      | none => s.beginCall thread call
      | some _ => none
  | .goOn thread, s => (s.calls thread).map (s.goOn thread)

/-- The queues, their workers and their callers as a machine. -/
def machine : Machine (Label Queue Item Thread) (State Queue Item Thread) := ⟨step⟩

/-- The delayed work of a queue is cancelled before the queue is destroyed. -/
def destroysLast : Label Queue Item Thread → State Queue Item Thread → Prop
  | .begin _ (.destroyQueue queue), s =>
      ∀ item, (s.work item).pending = .delayed → (s.work item).wq ≠ some queue
  | _, _ => True

namespace State

variable {s : State Queue Item Thread}

omit [DecidableEq Thread]

omit [DecidableEq Queue] in
theorem work_setEntry (s : State Queue Item Thread) (item : Item) (entry : Entry Queue) :
    (s.setEntry item entry).work = Function.update s.work item entry.work := by
  funext other
  by_cases same : other = item
  · subst same
    simp [State.work, setEntry]
  · simp [State.work, setEntry, same]

omit [DecidableEq Item] in
theorem of_admits {queue : Queue} {item : Item} (admitted : s.admits queue item = true) :
    (s.queues queue).running = true ∧ (s.work item).pending = .no ∧
      (s.work item).canceling = false ∧
      ((s.work item).executing = true → (s.work item).wq = some queue) := by
  simp only [admits, Bool.and_eq_true, decide_eq_true_eq, Bool.not_eq_true',
    Bool.and_eq_false_iff, decide_eq_false_iff_not, not_not] at admitted
  grind

omit [DecidableEq Queue] in
theorem items_removePendingWork (s : State Queue Item Thread) (item : Item) :
    (s.removePendingWork item).items = Function.update s.items item { s.items item with
      work := { s.work item with pending := .no }
      removed := if (s.work item).pending = .no then (s.items item).removed
        else (s.items item).removed + 1 } := by
  unfold State.removePendingWork
  dsimp only
  split <;> rfl

/-! ## What is counted as accepted -/

omit [DecidableEq Queue] in
theorem accepted_setWork (s : State Queue Item Thread) (item : Item) (work : Work Queue) :
    ((s.setWork item work).items item).accepted = (s.items item).accepted := by
  simp [setWork, setEntry]

omit [DecidableEq Queue] in
theorem accepted_countAccepted (s : State Queue Item Thread) (item : Item) :
    ((s.countAccepted item).items item).accepted = (s.items item).accepted + 1 := by
  simp [countAccepted, setEntry]

theorem accepted_queueWorkLocked (s : State Queue Item Thread) (queue : Queue) (item : Item) :
    ((s.queueWorkLocked queue item).1.items item).accepted = (s.items item).accepted := by
  rw [queueWorkLocked]
  split
  · exact accepted_setWork s item _
  · rfl

/-- `queue_work` is counted exactly if it answers true. -/
theorem accepted_queueWork (s : State Queue Item Thread) (queue : Queue) (item : Item) :
    ((s.queueWork queue item).1.items item).accepted =
      (s.items item).accepted + (s.queueWork queue item).2.toNat := by
  have unchanged := accepted_queueWorkLocked s queue item
  rw [queueWork]
  rcases result : s.queueWorkLocked queue item with ⟨queued, accepted⟩
  rw [result] at unchanged
  cases accepted with
  | false => exact unchanged
  | true => exact (accepted_countAccepted queued item).trans (congrArg (· + 1) unchanged)

omit [DecidableEq Queue] in
theorem accepted_assignDelayed (s : State Queue Item Thread) (queue : Queue) (item : Item)
    (allocates : Bool) :
    ((s.assignDelayed queue item allocates).items item).accepted = (s.items item).accepted := by
  rw [assignDelayed]
  split <;> simp [allocateTimer, setWork, setEntry]

/-- `queue_delayed_work` is counted exactly if it answers true. -/
theorem accepted_queueDelayedWork (s : State Queue Item Thread) (queue : Queue) (item : Item)
    (allocates : Bool) :
    ((s.queueDelayedWork queue item allocates).1.items item).accepted =
      (s.items item).accepted + (s.queueDelayedWork queue item allocates).2.toNat := by
  have unchanged := accepted_assignDelayed s queue item allocates
  rw [queueDelayedWork]
  split
  · dsimp only
    split
    · rw [accepted_countAccepted, accepted_setWork, unchanged]
      rfl
    · exact unchanged
  · rfl

end State

/-- The call that a step is part of. -/
def Label.call (label : Label Queue Item Thread) (s : State Queue Item Thread) :
    Option (Thread × Call Queue Item) :=
  match label with
  | .begin thread call => some (thread, call)
  | .goOn thread => (s.calls thread).map fun call => (thread, call)
  | _ => none

/-- A call returns in this step. -/
def Returns (label : Label Queue Item Thread) (s t : State Queue Item Thread)
    (call : Call Queue Item) : Prop :=
  ∃ thread, label.call s = some (thread, call) ∧ t.calls thread = none

/-- A call that returns has found its condition.  A cancellation has just started, or was under
way. -/
theorem concluded_of_returns {label : Label Queue Item Thread} {s t : State Queue Item Thread}
    {call : Call Queue Item} (taken : step label s = some t) (returns : Returns label s t call) :
    ∃ (u : State Queue Item Thread) (thread : Thread), u.blocks call = false ∧
      t = (u.conclude call).setCall thread none ∧ ∀ item, call.cancels = some item →
        (call = .cancelWork item ∨ call = .cancelDelayed item) ∧
          (u = s.beginCancel item ∨ (u = s ∧ s.calls thread = some call)) := by
  have awaits : ∀ (u : State Queue Item Thread) (thread : Thread) (call : Call Queue Item),
      t = u.await thread call → t.calls thread = none →
      u.blocks call = false ∧ t = (u.conclude call).setCall thread none := by
    rintro u thread call rfl returned
    unfold State.await at *
    by_cases blocks : u.blocks call = true
    · simp [blocks, State.setCall] at returned
    · exact ⟨by simpa using blocks, if_neg blocks⟩
  obtain ⟨thread, handles, returned⟩ := returns
  cases label <;> simp only [Label.call, reduceCtorEq] at handles
  case begin caller begun =>
    obtain ⟨rfl, rfl⟩ := Prod.mk.inj (Option.some.inj handles)
    simp only [step] at taken
    split at taken
    · cases begun with
      | cancelWork item =>
          cases taken
          obtain ⟨passes, concluded⟩ := awaits _ _ _ rfl returned
          refine ⟨_, _, passes, concluded, fun other cancels => ?_⟩
          cases cancels
          exact ⟨.inl rfl, .inl rfl⟩
      | deleteTimer item =>
          cases taken
          simp [State.setCall] at returned
      | flushQueue | flushWork | destroyQueue =>
          cases taken
          obtain ⟨passes, concluded⟩ := awaits _ _ _ rfl returned
          exact ⟨_, _, passes, concluded, nofun⟩
      | stopTimer | freedTimer | cancelDelayed => cases taken
    · cases taken
  case goOn caller =>
    obtain ⟨under, found, same⟩ := Option.map_eq_some_iff.mp handles
    obtain ⟨rfl, rfl⟩ := Prod.mk.inj same
    simp only [step, found, Option.map_some, Option.some.injEq] at taken
    subst taken
    cases under with
    | deleteTimer item =>
        simp only [State.goOn] at returned
        split at returned <;> simp [State.setCall] at returned
    | stopTimer | freedTimer => simp [State.goOn, State.setCall] at returned
    | flushQueue | flushWork | destroyQueue =>
        obtain ⟨passes, concluded⟩ := awaits s caller _ rfl returned
        exact ⟨s, caller, passes, concluded, nofun⟩
    | cancelWork | cancelDelayed =>
        obtain ⟨passes, concluded⟩ := awaits s caller _ rfl returned
        refine ⟨s, caller, passes, concluded, fun item cancels => ?_⟩
        cases cancels
        exact ⟨by simp, .inr ⟨rfl, found⟩⟩

end Workqueue

end AirportRtw88
