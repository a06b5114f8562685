import AirportRtw88.Workqueue
import Mathlib.Data.Set.Card

/-!
# The safety of the workqueues

The flags of the work items agree with the lists and the threads of the queues in every run, and
every accepted queueing of an item is accounted for.
-/

namespace AirportRtw88

open Interleave

namespace Workqueue

variable {Queue Item Thread : Type} [DecidableEq Queue] [DecidableEq Item] [DecidableEq Thread]

/-! ## The invariant of the queues -/

section

omit [DecidableEq Queue] [DecidableEq Item] [DecidableEq Thread]

/-- The flags of the items agree with the lists and the threads of the queues. -/
structure Consistent (work : Item → Work Queue) (queues : Queue → Wq Item) : Prop where
  listed : ∀ queue item, item ∈ (queues queue).queue ↔
    (work item).pending = .queued ∧ (work item).wq = some queue
  nodup : ∀ queue, (queues queue).queue.Nodup
  delayed : ∀ item, (work item).pending = .delayed →
    ∃ queue, (work item).wq = some queue ∧ (queues queue).running = true
  executing : ∀ queue item, (queues queue).worker = .executing item ↔
    (work item).executing = true ∧ (work item).wq = some queue
  assigned : ∀ item, (work item).executing = true ∨ (work item).pending = .queued →
    ∃ queue, (work item).wq = some queue
  active : ∀ queue, (queues queue).active =
    match (queues queue).worker with
    | .executing _ => 1
    | _ => 0
  canceling : ∀ item, (work item).canceling = true → (work item).pending = .no
  done : ∀ queue, (queues queue).done = true → (queues queue).running = false ∧
    (queues queue).queue = [] ∧ (queues queue).worker = .exited

end

namespace Consistent

variable {work : Item → Work Queue} {queues : Queue → Wq Item} {queue : Queue} {item : Item}

/-- An item that is not pending goes to the end of a list. -/
theorem enqueue (consistent : Consistent work queues) (queue : Queue) (item : Item)
    (running : (queues queue).running = true)
    (free : (work item).pending = .no) (calm : (work item).canceling = false)
    (stays : (work item).executing = true → (work item).wq = some queue) :
    Consistent (Function.update work item { work item with wq := some queue, pending := .queued })
      (Function.update queues queue
        { queues queue with queue := (queues queue).queue ++ [item] }) := by
  obtain ⟨listed, nodup, delayed, executing, assigned, active, canceling, done⟩ := consistent
  constructor <;> grind [Function.update_apply]

omit [DecidableEq Queue] in
/-- An item that is not pending is assigned to a queue, and waits for its timer if `waits`. -/
theorem assign (consistent : Consistent work queues) (running : (queues queue).running = true)
    (free : (work item).pending = .no) (calm : (work item).canceling = false)
    (stays : (work item).executing = true → (work item).wq = some queue) (pending : Pending)
    (waits : pending ≠ .queued) :
    Consistent (Function.update work item { work item with wq := some queue, pending }) queues := by
  obtain ⟨listed, nodup, delayed, executing, assigned, active, canceling, done⟩ := consistent
  constructor <;> grind [Function.update_apply]

omit [DecidableEq Queue] in
/-- An item is not pending any more. -/
theorem unlink (consistent : Consistent work queues) (item : Item) (canceling : Bool) :
    Consistent (Function.update work item { work item with pending := .no, canceling })
      fun queue => { queues queue with queue := (queues queue).queue.erase item } := by
  obtain ⟨listed, nodup, delayed, executing, assigned, active, cancels, done⟩ := consistent
  constructor
  · intro queue other
    rw [(nodup queue).mem_erase_iff]
    grind [Function.update_apply]
  · exact fun queue => (nodup queue).erase item
  all_goals grind [Function.update_apply]

omit [DecidableEq Queue] in
/-- An item that is on no list is not pending any more. -/
theorem expire (consistent : Consistent work queues) (item : Item)
    (free : (work item).pending ≠ .queued)
    (canceling : Bool) :
    Consistent (Function.update work item { work item with pending := .no, canceling }) queues := by
  obtain ⟨listed, nodup, delayed, executing, assigned, active, cancels, done⟩ := consistent
  constructor <;> grind [Function.update_apply]

omit [DecidableEq Queue] in
theorem calm (consistent : Consistent work queues) (item : Item) :
    Consistent (Function.update work item { work item with canceling := false }) queues := by
  obtain ⟨listed, nodup, delayed, executing, assigned, active, cancels, done⟩ := consistent
  constructor <;> grind [Function.update_apply]

/-- A worker takes the first item of its list. -/
theorem take (consistent : Consistent work queues) {rest : List Item}
    (waiting : (queues queue).worker = .waiting) (first : (queues queue).queue = item :: rest) :
    Consistent (Function.update work item { work item with pending := .no, executing := true })
      (Function.update queues queue { queues queue with
        queue := rest
        active := (queues queue).active + 1
        worker := .executing item }) := by
  obtain ⟨listed, nodup, delayed, executing, assigned, active, canceling, done⟩ := consistent
  have listed' := listed queue
  have nodup' := nodup queue
  constructor <;> grind [Function.update_apply]

theorem finish (consistent : Consistent work queues)
    (busy : (queues queue).worker = .executing item) :
    Consistent (Function.update work item { work item with executing := false })
      (Function.update queues queue { queues queue with
        active := (queues queue).active - 1
        worker := .waiting }) := by
  obtain ⟨listed, nodup, delayed, executing, assigned, active, canceling, done⟩ := consistent
  constructor <;> grind [Function.update_apply]

theorem exit (consistent : Consistent work queues) (waiting : (queues queue).worker = .waiting)
    (empty : (queues queue).queue = []) (stopped : (queues queue).running = false) :
    Consistent work
      (Function.update queues queue { queues queue with done := true, worker := .exited }) := by
  obtain ⟨listed, nodup, delayed, executing, assigned, active, canceling, done⟩ := consistent
  constructor <;> grind [Function.update_apply]

/-- A queue without delayed work is stopped. -/
theorem stop (consistent : Consistent work queues)
    (last : ∀ item, (work item).pending = .delayed → (work item).wq ≠ some queue) :
    Consistent work (Function.update queues queue { queues queue with running := false }) := by
  obtain ⟨listed, nodup, delayed, executing, assigned, active, canceling, done⟩ := consistent
  constructor <;> grind [Function.update_apply]

end Consistent

namespace State

variable {s : State Queue Item Thread}

/-- Every accepted queueing was started, was removed or is pending. -/
def Balanced (entry : Entry Queue) : Prop :=
  entry.accepted = entry.started + entry.removed + if entry.work.pending = .no then 0 else 1

structure Sound (s : State Queue Item Thread) : Prop where
  consistent : Consistent s.work s.queues
  balanced : ∀ item, Balanced (s.items item)

omit [DecidableEq Queue] [DecidableEq Thread] in
/-- An entry is written, and the queues with it. -/
theorem Sound.write {t : State Queue Item Thread} (sound : s.Sound) (item : Item)
    (entry : Entry Queue) (items : t.items = Function.update s.items item entry)
    (consistent : Consistent (Function.update s.work item entry.work) t.queues)
    (balanced : Balanced entry) : t.Sound := by
  have work : t.work = Function.update s.work item entry.work := by
    rw [← s.work_setEntry item entry]
    funext other
    simp only [State.work, items, setEntry]
  refine ⟨work ▸ consistent, fun other => ?_⟩
  rw [items]
  by_cases same : other = item
  · subst same
    simpa using balanced
  · simpa [same] using sound.balanced other

omit [DecidableEq Thread] in
theorem Sound.queueWork (sound : s.Sound) (queue : Queue) (item : Item) :
    (s.queueWork queue item).1.Sound := by
  unfold State.queueWork queueWorkLocked
  by_cases admitted : s.admits queue item = true
  · obtain ⟨running, free, calm, stays⟩ := of_admits admitted
    have balanced := sound.balanced item
    have free' : (s.items item).work.pending = .no := free
    simp only [admitted, if_true]
    refine sound.write item ({ s.items item with
      work := { s.work item with wq := some queue, pending := .queued }
      accepted := (s.items item).accepted + 1 }) ?_ ?_ ?_
    · simp [countAccepted, setEntry, setQueue, setWork]
    · exact sound.consistent.enqueue queue item running free calm stays
    · simp only [Balanced, free', if_true] at balanced ⊢
      simp [balanced]
  · simpa only [admitted, Bool.false_eq_true, if_false] using sound

omit [DecidableEq Thread] in
theorem Sound.queueDelayedWork (sound : s.Sound) (queue : Queue) (item : Item)
    (allocates : Bool) : (s.queueDelayedWork queue item allocates).1.Sound := by
  unfold State.queueDelayedWork
  by_cases admitted : s.admits queue item = true
  · obtain ⟨running, free, calm, stays⟩ := of_admits admitted
    have balanced := sound.balanced item
    have free' : (s.items item).work.pending = .no := free
    simp only [admitted, if_true]
    obtain ⟨call, items, queues⟩ : ∃ call, (s.assignDelayed queue item allocates).items =
        Function.update s.items item
          { s.items item with work := { s.work item with wq := some queue }, timerCall := call } ∧
        (s.assignDelayed queue item allocates).queues = s.queues := by
      unfold assignDelayed
      dsimp only
      split
      · exact ⟨some s.allocated, by simp [allocateTimer, setWork, setEntry], rfl⟩
      · exact ⟨(s.items item).timerCall, rfl, rfl⟩
    split
    · refine sound.write item ({ s.items item with
        work := { s.work item with wq := some queue, pending := .delayed }
        timerCall := call
        accepted := (s.items item).accepted + 1 }) ?_ ?_ ?_
      · simp [countAccepted, setEntry, setWork, State.work, items]
      · have assigned := sound.consistent.assign running free calm stays .delayed (by rintro ⟨⟩)
        exact queues.symm ▸ assigned
      · simp only [Balanced, free', if_true] at balanced ⊢
        simp [balanced]
    · refine sound.write item _ items ?_ ?_
      · have assigned := sound.consistent.assign running free calm stays .no (by rintro ⟨⟩)
        rw [← free] at assigned
        exact queues.symm ▸ assigned
      · exact balanced
  · simpa only [admitted, Bool.false_eq_true, if_false] using sound

omit [DecidableEq Thread] in
theorem Sound.delayedWorkTimerFn (sound : s.Sound) (item : Item) :
    (s.delayedWorkTimerFn item).Sound := by
  unfold State.delayedWorkTimerFn
  split
  · rename_i delayed
    obtain ⟨queue, assigned, running⟩ := sound.consistent.delayed item delayed
    have calm : (s.work item).canceling = false := by
      cases canceling : (s.work item).canceling
      · rfl
      · simp [sound.consistent.canceling item canceling] at delayed
    simp only [assigned]
    have work : (s.expire item).work =
        Function.update s.work item { s.work item with pending := .no } := s.work_setEntry item _
    have queues : (s.expire item).queues = s.queues := rfl
    have admitted : (s.expire item).admits queue item = true := by
      simp [admits, work, queues, running, calm, assigned]
    have consistent : Consistent (s.expire item).work s.queues := by
      rw [work]
      exact sound.consistent.expire item (by simp [delayed]) _
    have promoted := consistent.enqueue queue item running (by simp [work])
      (by simp [work, calm]) (by simp [work, assigned])
    have balanced := sound.balanced item
    have delayed' : (s.items item).work.pending = .delayed := delayed
    simp only [queueWorkLocked, admitted, if_true]
    refine sound.write item ({ s.items item with
      work := { s.work item with wq := some queue, pending := .queued } }) ?_ ?_ ?_
    · simp [setEntry, setQueue, setWork, expire, State.work]
    · simpa [setQueue, setWork, setEntry, work, queues] using promoted
    · simp only [Balanced, delayed', reduceCtorEq, if_false] at balanced ⊢
      exact balanced
  · exact sound

omit [DecidableEq Thread] in
theorem Sound.takeWork {t : State Queue Item Thread} {queue : Queue} (sound : s.Sound)
    (taken : s.takeWork queue = some t) : t.Sound := by
  unfold State.takeWork at taken
  simp only at taken
  split at taken
  · rename_i item rest waiting first
    cases taken
    have queued : (s.items item).work.pending = .queued :=
      ((sound.consistent.listed queue item).mp (first ▸ List.mem_cons_self)).1
    have balanced := sound.balanced item
    refine sound.write item _ rfl (sound.consistent.take waiting first) ?_
    simp only [Balanced, queued, reduceCtorEq, if_false, if_true] at balanced ⊢
    omega
  · cases taken

omit [DecidableEq Thread] in
theorem Sound.finishWork {t : State Queue Item Thread} {queue : Queue} (sound : s.Sound)
    (taken : s.finishWork queue = some t) : t.Sound := by
  unfold State.finishWork at taken
  simp only at taken
  split at taken
  · rename_i item busy
    cases taken
    exact sound.write item _ rfl (sound.consistent.finish busy) (sound.balanced item)
  · cases taken

omit [DecidableEq Thread] in
theorem Sound.exitWorker {t : State Queue Item Thread} {queue : Queue} (sound : s.Sound)
    (taken : s.exitWorker queue = some t) : t.Sound := by
  unfold State.exitWorker at taken
  simp only at taken
  split at taken
  · rename_i idle
    cases taken
    exact ⟨sound.consistent.exit idle.1 idle.2.1 idle.2.2, sound.balanced⟩
  · cases taken

omit [DecidableEq Queue] [DecidableEq Thread] in
/-- An item is removed, and its flag set at the same time. -/
theorem Sound.remove {t : State Queue Item Thread} (sound : s.Sound) (item : Item)
    (canceling : Bool) (items : t.items = Function.update s.items item { s.items item with
      work := { s.work item with pending := .no, canceling }
      removed := if (s.work item).pending = .no then (s.items item).removed
        else (s.items item).removed + 1 })
    (queues : t.queues = if (s.work item).pending = .queued then (s.unlink item).queues
      else s.queues) : t.Sound := by
  have balanced := sound.balanced item
  refine sound.write item _ items ?_ ?_
  · rw [queues]
    by_cases queued : (s.work item).pending = .queued
    · rw [if_pos queued]
      exact sound.consistent.unlink item canceling
    · rw [if_neg queued]
      exact sound.consistent.expire item queued canceling
  · by_cases free : (s.items item).work.pending = .no
    · simp only [Balanced, State.work, free, if_true] at balanced ⊢
      exact balanced
    · simp only [Balanced, State.work, free, if_true, if_false] at balanced ⊢
      omega

omit [DecidableEq Queue] [DecidableEq Thread] in
theorem Sound.removePendingWork (sound : s.Sound) (item : Item) :
    (s.removePendingWork item).Sound := by
  refine sound.remove item (s.work item).canceling (s.items_removePendingWork item) ?_
  unfold State.removePendingWork State.work
  dsimp only
  split <;> rfl

omit [DecidableEq Queue] [DecidableEq Thread] in
theorem Sound.beginCancel (sound : s.Sound) (item : Item) : (s.beginCancel item).Sound := by
  have work : (s.setCanceling item true).work item = { s.work item with canceling := true } := by
    simp [setCanceling, setWork, work_setEntry]
  refine sound.remove item true ?_ ?_
  · rw [State.beginCancel, items_removePendingWork, work]
    simp [setCanceling, setWork, setEntry]
  · have pending : ((s.setCanceling item true).items item).work.pending =
        (s.items item).work.pending := (congrArg Work.pending work : _)
    unfold State.beginCancel State.removePendingWork
    dsimp only
    rw [pending]
    by_cases queued : (s.items item).work.pending = .queued
    · rw [if_pos queued]
      exact (if_pos queued).symm
    · rw [if_neg queued]
      exact (if_neg queued).symm

omit [DecidableEq Queue] [DecidableEq Item] in
theorem Sound.setCall (sound : s.Sound) (thread : Thread) (call : Option (Call Queue Item)) :
    (s.setCall thread call).Sound :=
  ⟨sound.consistent, sound.balanced⟩

omit [DecidableEq Queue] in
theorem Sound.await (sound : s.Sound) (thread : Thread) (call : Call Queue Item) :
    (s.await thread call).Sound := by
  have calms : ∀ item, (s.setCanceling item false).Sound := fun item =>
    sound.write item _ rfl (sound.consistent.calm item) (sound.balanced item)
  unfold State.await
  split
  · exact sound.setCall thread _
  · refine Sound.setCall ?_ thread none
    cases call <;> first | exact calms _ | exact sound

omit [DecidableEq Thread] in
theorem Sound.stop (sound : s.Sound) {queue : Queue}
    (last : ∀ item, (s.work item).pending = .delayed → (s.work item).wq ≠ some queue) :
    (s.setQueue queue { s.queues queue with running := false }).Sound :=
  ⟨sound.consistent.stop last, sound.balanced⟩

theorem Sound.beginCall {t : State Queue Item Thread} {thread : Thread} {call : Call Queue Item}
    (sound : s.Sound) (allowed : destroysLast (.begin thread call) s)
    (taken : s.beginCall thread call = some t) : t.Sound := by
  cases call with
  | cancelWork item =>
      cases taken
      exact (sound.beginCancel item).await thread _
  | deleteTimer item =>
      cases taken
      exact (sound.beginCancel item).setCall thread _
  | flushQueue queue =>
      cases taken
      exact sound.await thread _
  | flushWork item =>
      cases taken
      exact sound.await thread _
  | destroyQueue queue =>
      cases taken
      exact (sound.stop allowed).await thread _
  | stopTimer | freedTimer | cancelDelayed => cases taken

omit [DecidableEq Queue] in
theorem Sound.goOn (sound : s.Sound) (thread : Thread) (call : Call Queue Item) :
    (s.goOn thread call).Sound := by
  cases call with
  | deleteTimer item =>
      simp only [State.goOn]
      split <;> exact sound.setCall thread _
  | stopTimer item => exact ⟨sound.consistent, sound.balanced⟩
  | freedTimer item =>
      have cleared : (s.setEntry item { s.items item with timerCall := none }).Sound := by
        refine sound.write item _ rfl ?_ (sound.balanced item)
        have same : Function.update s.work item (s.items item).work = s.work :=
          Function.update_eq_self item s.work
        exact same.symm ▸ sound.consistent
      exact cleared.setCall thread _
  | cancelWork | cancelDelayed | flushQueue | flushWork | destroyQueue =>
      exact sound.await thread _

end State

theorem step_sound {label : Label Queue Item Thread} {s t : State Queue Item Thread}
    (allowed : destroysLast label s) (taken : step label s = some t) (sound : s.Sound) :
    t.Sound := by
  cases label with
  | queueWork queue item =>
      cases taken
      exact sound.queueWork queue item
  | queueDelayedWork queue item allocates =>
      cases taken
      exact sound.queueDelayedWork queue item allocates
  | delayedWorkTimerFn item =>
      cases taken
      exact sound.delayedWorkTimerFn item
  | takeWork queue => exact sound.takeWork taken
  | finishWork queue => exact sound.finishWork taken
  | exitWorker queue => exact sound.exitWorker taken
  | cancelDelayedWork item =>
      cases taken
      exact sound.removePendingWork item
  | begin thread call =>
      simp only [step] at taken
      split at taken
      · exact sound.beginCall allowed taken
      · cases taken
  | goOn thread =>
      obtain ⟨call, -, rfl⟩ := Option.map_eq_some_iff.mp taken
      exact sound.goOn thread call

theorem reaches_sound {allows : Label Queue Item Thread → State Queue Item Thread → Prop}
    {s : State Queue Item Thread} (lasts : ∀ label s, allows label s → destroysLast label s)
    (run : machine.Reaches allows .initial s) : s.Sound := by
  refine run.keeps State.Sound (fun _ _ _ allowed taken => step_sound (lasts _ _ allowed) taken) ?_
  refine ⟨?_, fun _ => rfl⟩
  constructor <;> simp [State.initial, State.work]

/-! ## What the queues promise -/

/-- What holds of the queues and the items. -/
structure Safe (s : State Queue Item Thread) : Prop where
  /-- An item is on one list at most, once. -/
  single : (∀ queue, (s.queues queue).queue.Nodup) ∧ ∀ item queue other,
    item ∈ (s.queues queue).queue → item ∈ (s.queues other).queue → queue = other
  /-- `pending == 1` says that the item is on a list, which is that of `work->wq`. -/
  queued : ∀ item, ((s.work item).pending = .queued ↔ ∃ queue, item ∈ (s.queues queue).queue) ∧
    ∀ queue, item ∈ (s.queues queue).queue → (s.work item).wq = some queue
  delayed : ∀ item, (s.work item).pending = .delayed → ∀ queue, item ∉ (s.queues queue).queue
  /-- `active` counts the items that execute on the queue. -/
  active : ∀ queue, (s.queues queue).active =
    {item | (s.work item).executing = true ∧ (s.work item).wq = some queue}.ncard
  /-- Two workers never execute the same item. -/
  alone : ∀ item queue other, (s.queues queue).worker = .executing item →
    (s.queues other).worker = .executing item → queue = other
  balanced : ∀ item, (s.items item).accepted = (s.items item).started + (s.items item).removed +
    if (s.work item).pending = .no then 0 else 1
  /-- When a queue was flushed or is destroyed, it is empty and nothing executes on it. -/
  flushed : ∀ label t queue, destroysLast label s → step label s = some t →
    Returns label s t (.flushQueue queue) ∨ Returns label s t (.destroyQueue queue) →
      (t.queues queue).queue = [] ∧
        ∀ item, (t.work item).executing = true → (t.work item).wq ≠ some queue

/-- The queues are safe in every run in which delayed work is cancelled before its queue is
destroyed. -/
def AlwaysSafe : Prop :=
  ∀ (Queue Item Thread : Type) [DecidableEq Queue] [DecidableEq Item] [DecidableEq Thread]
    (s : State Queue Item Thread), machine.Reaches destroysLast .initial s → Safe s

omit [DecidableEq Queue] [DecidableEq Item] in
theorem Consistent.active_eq {work : Item → Work Queue} {queues : Queue → Wq Item}
    (consistent : Consistent work queues) (queue : Queue) : (queues queue).active =
      {item | (work item).executing = true ∧ (work item).wq = some queue}.ncard := by
  have active := consistent.active queue
  have executing := consistent.executing queue
  cases worker : (queues queue).worker with
  | executing item =>
      have only : {other | (work other).executing = true ∧ (work other).wq = some queue} =
          {item} := by
        ext other
        rw [Set.mem_ofPred_eq, ← executing other, worker]
        simp [eq_comm]
      rw [active, worker, only, Set.ncard_singleton]
  | waiting | exited =>
      have none : {other | (work other).executing = true ∧ (work other).wq = some queue} = ∅ := by
        ext other
        rw [Set.mem_ofPred_eq, ← executing other, worker]
        simp
      rw [active, worker, none, Set.ncard_empty]

omit [DecidableEq Queue] [DecidableEq Item] in
/-- A queue without an active worker executes nothing. -/
theorem Consistent.idle {work : Item → Work Queue} {queues : Queue → Wq Item}
    (consistent : Consistent work queues) {queue : Queue} (idle : (queues queue).active = 0)
    (item : Item) (executing : (work item).executing = true) : (work item).wq ≠ some queue := by
  intro assigned
  have worker := (consistent.executing queue item).mpr ⟨executing, assigned⟩
  have active := consistent.active queue
  rw [worker, idle] at active
  cases active

omit [DecidableEq Queue] [DecidableEq Item] [DecidableEq Thread] in
/-- The state in which a flush or a destruction returns. -/
theorem empty_of_passes {s : State Queue Item Thread} {queue : Queue} (sound : s.Sound)
    (passes : s.blocks (.flushQueue queue) = false ∨ s.blocks (.destroyQueue queue) = false) :
    (s.queues queue).queue = [] ∧
      ∀ item, (s.work item).executing = true → (s.work item).wq ≠ some queue := by
  have consistent := sound.consistent
  rcases passes with passes | passes
  · simp only [State.blocks, Bool.or_eq_false_iff, decide_eq_false_iff_not, not_not] at passes
    exact ⟨passes.1, consistent.idle passes.2⟩
  · have done : (s.queues queue).done = true := by simpa [State.blocks] using passes
    obtain ⟨-, empty, exited⟩ := consistent.done queue done
    refine ⟨empty, consistent.idle ?_⟩
    rw [consistent.active queue, exited]

theorem alwaysSafe : AlwaysSafe := by
  intro Queue Item Thread _ _ _ s run
  have sound := reaches_sound (fun _ _ => id) run
  have consistent := sound.consistent
  have assigned : ∀ item queue, item ∈ (s.queues queue).queue → (s.work item).wq = some queue :=
    fun item queue listed => ((consistent.listed queue item).mp listed).2
  refine ⟨⟨consistent.nodup, fun item queue other here there => ?_⟩, fun item =>
    ⟨?_, assigned item⟩,
    fun item delayed queue listed => ?_, consistent.active_eq,
      fun item queue other here there => ?_,
    sound.balanced, ?_⟩
  · exact Option.some.inj ((assigned item queue here).symm.trans (assigned item other there))
  · refine ⟨fun queued => ?_, fun ⟨queue, listed⟩ => ((consistent.listed queue item).mp listed).1⟩
    obtain ⟨queue, assigned⟩ := consistent.assigned item (.inr queued)
    exact ⟨queue, (consistent.listed queue item).mpr ⟨queued, assigned⟩⟩
  · have queued := ((consistent.listed queue item).mp listed).1
    simp [delayed] at queued
  · have here := ((consistent.executing queue item).mp here).2
    have there := ((consistent.executing other item).mp there).2
    exact Option.some.inj (here.symm.trans there)
  · intro label t queue allowed taken returns
    refine empty_of_passes (step_sound allowed taken sound) (returns.imp ?_ ?_) <;>
    · intro returns
      obtain ⟨u, thread, passes, rfl, -⟩ := concluded_of_returns taken returns
      exact passes

end Workqueue

end AirportRtw88
