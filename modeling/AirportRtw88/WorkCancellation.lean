import AirportRtw88.Workqueue

/-!
# Synchronous cancellation of work

`cancel_work_sync` and `cancel_delayed_work_sync` set one flag that refuses an item while they
wait for it, and each clears it when it returns.
-/

namespace AirportRtw88

open Interleave

namespace Workqueue

variable {Queue Item Thread : Type} [DecidableEq Queue] [DecidableEq Item] [DecidableEq Thread]

/-- A synchronous cancellation starts only while none of the same item is under way. -/
def cancelsApart : Label Queue Item Thread → State Queue Item Thread → Prop
  | .begin _ call, s => ∀ other under, s.calls other = some under →
      under.cancels = none ∨ under.cancels ≠ call.cancels
  | _, _ => True

/-- What synchronous cancellations promise in a state. -/
structure Cancels (allows : Label Queue Item Thread → State Queue Item Thread → Prop)
    (s : State Queue Item Thread) : Prop where
  /-- When a call returns, the item is neither pending nor executing. -/
  returned : ∀ label t call item, allows label s → step label s = some t →
    Returns label s t call → call.cancels = some item →
      (t.work item).pending = .no ∧ (t.work item).executing = false
  /-- While a call is under way, every queueing of the item is refused. -/
  refused : ∀ thread call item, s.calls thread = some call → call.cancels = some item →
    ∀ queue, (s.queueWork queue item).2 = false ∧
      ∀ allocates, (s.queueDelayedWork queue item allocates).2 = false
  /-- The thread call of a timer is freed at most once. -/
  freedOnce : s.freed.Nodup

/-- Synchronous cancellations keep their promises in every run of allowed steps. -/
def AlwaysCancels (allows : ∀ {Queue Item Thread : Type},
    Label Queue Item Thread → State Queue Item Thread → Prop) (Queue Item Thread : Type)
    [DecidableEq Queue] [DecidableEq Item] [DecidableEq Thread] (s : State Queue Item Thread) :
    Prop :=
  machine.Reaches allows .initial s → Cancels allows s

/-! ## The invariant of the cancellations -/

/-- Every cancellation under way guards its item alone, and frees a thread call that is not
freed yet. -/
structure Guarded (s : State Queue Item Thread) : Prop where
  alone : ∀ item thread other call under, s.calls thread = some call → call.cancels = some item →
    s.calls other = some under → under.cancels = some item → thread = other
  canceling : ∀ item thread call, s.calls thread = some call → call.cancels = some item →
    (s.work item).canceling = true
  free : ∀ item, (s.work item).canceling = true → (s.work item).pending = .no
  known : ∀ item number, (s.items item).timerCall = some number → number < s.allocated
  distinct : ∀ item other number, (s.items item).timerCall = some number →
    (s.items other).timerCall = some number → item = other
  freedKnown : ∀ number ∈ s.freed, number < s.allocated
  freed : ∀ item number, (s.items item).timerCall = some number → number ∈ s.freed →
    ∃ thread, s.calls thread = some (.freedTimer item)
  freedOnce : s.freed.Nodup

/-- A step of a producer, a timer or a worker leaves the cancellations alone. -/
structure Keeps (s t : State Queue Item Thread) : Prop where
  rest : (t.calls, t.allocated, t.freed) = (s.calls, s.allocated, s.freed)
  canceling : ∀ item, (t.work item).canceling = (s.work item).canceling
  timerCall : ∀ item, (t.items item).timerCall = (s.items item).timerCall
  pending : ∀ item, (s.work item).canceling = true → (s.work item).pending = .no →
    (t.work item).pending = .no

namespace Keeps

variable {s t u : State Queue Item Thread}

omit [DecidableEq Queue] [DecidableEq Item] [DecidableEq Thread] in
theorem refl (s : State Queue Item Thread) : Keeps s s :=
  ⟨rfl, fun _ => rfl, fun _ => rfl, fun _ _ => id⟩

omit [DecidableEq Queue] [DecidableEq Item] [DecidableEq Thread] in
theorem trans (first : Keeps s t) (second : Keeps t u) : Keeps s u where
  rest := second.rest.trans first.rest
  canceling item := (second.canceling item).trans (first.canceling item)
  timerCall item := (second.timerCall item).trans (first.timerCall item)
  pending item canceling free := by
    refine second.pending item ?_ (first.pending item canceling free)
    rw [first.canceling item, canceling]

omit [DecidableEq Queue] [DecidableEq Thread] in
/-- An entry is written. -/
theorem write (item : Item) {entry : Entry Queue}
    (rest : (t.calls, t.allocated, t.freed) = (s.calls, s.allocated, s.freed))
    (items : t.items = Function.update s.items item entry)
    (canceling : entry.work.canceling = (s.work item).canceling)
    (timerCall : entry.timerCall = (s.items item).timerCall)
    (pending : (s.work item).canceling = true → (s.work item).pending = .no →
      entry.work.pending = .no) : Keeps s t := by
  have written : ∀ other, t.items other = if other = item then entry else s.items other := by
    intro other
    rw [items, Function.update_apply]
  refine ⟨rest, fun other => ?_, fun other => ?_, fun other => ?_⟩ <;>
    by_cases same : other = item
  · subst same
    simp [State.work, written, canceling]
  · simp [State.work, written, same]
  · subst same
    simp [written, timerCall]
  · simp [written, same]
  · subst same
    simpa [State.work, written] using pending
  · simp [State.work, written, same]

omit [DecidableEq Thread] in
theorem queueWorkLocked (s : State Queue Item Thread) (queue : Queue) (item : Item) :
    Keeps s (s.queueWorkLocked queue item).1 := by
  unfold State.queueWorkLocked
  split
  · rename_i admitted
    obtain ⟨-, -, calm, -⟩ := State.of_admits admitted
    exact write _ rfl rfl rfl rfl fun canceling => by simp [calm] at canceling
  · exact refl s

omit [DecidableEq Queue] [DecidableEq Thread] in
theorem countAccepted (s : State Queue Item Thread) (item : Item) :
    Keeps s (s.countAccepted item) :=
  write _ rfl rfl rfl rfl fun _ => id

omit [DecidableEq Thread] in
theorem queueWork (s : State Queue Item Thread) (queue : Queue) (item : Item) :
    Keeps s (s.queueWork queue item).1 := by
  have queued := queueWorkLocked s queue item
  unfold State.queueWork
  dsimp only
  split
  · exact queued.trans (countAccepted _ item)
  · exact queued

omit [DecidableEq Thread] in
theorem delayedWorkTimerFn (s : State Queue Item Thread) (item : Item) :
    Keeps s (s.delayedWorkTimerFn item) := by
  have expired : Keeps s (s.expire item) := write _ rfl rfl rfl rfl fun _ _ => rfl
  unfold State.delayedWorkTimerFn
  split
  · split
    · exact expired.trans (queueWorkLocked _ _ item)
    · exact expired
  · exact refl s

omit [DecidableEq Thread] in
theorem takeWork {queue : Queue} (taken : s.takeWork queue = some t) : Keeps s t := by
  unfold State.takeWork at taken
  dsimp only at taken
  split at taken
  · cases taken
    exact write _ rfl rfl rfl rfl fun _ _ => rfl
  · cases taken

omit [DecidableEq Thread] in
theorem finishWork {queue : Queue} (taken : s.finishWork queue = some t) : Keeps s t := by
  unfold State.finishWork at taken
  dsimp only at taken
  split at taken
  · cases taken
    exact write _ rfl rfl rfl rfl fun _ => id
  · cases taken

omit [DecidableEq Thread] in
theorem exitWorker {queue : Queue} (taken : s.exitWorker queue = some t) : Keeps s t := by
  unfold State.exitWorker at taken
  dsimp only at taken
  split at taken
  · cases taken
    exact ⟨rfl, fun _ => rfl, fun _ => rfl, fun _ _ => id⟩
  · cases taken

omit [DecidableEq Queue] [DecidableEq Thread] in
theorem removePendingWork (s : State Queue Item Thread) (item : Item) :
    Keeps s (s.removePendingWork item) := by
  refine write item ?_ (s.items_removePendingWork item) rfl rfl fun _ _ => rfl
  unfold State.removePendingWork
  dsimp only
  split <;> rfl

end Keeps

namespace Guarded

variable {s t : State Queue Item Thread}

omit [DecidableEq Queue] [DecidableEq Item] [DecidableEq Thread] in
theorem of_keeps (guarded : Guarded s) (keeps : Keeps s t) : Guarded t := by
  have rest := keeps.rest
  simp only [Prod.mk.injEq] at rest
  obtain ⟨calls, allocated, freed⟩ := rest
  obtain ⟨alone, canceling, free, known, distinct, freedKnown, isFreed, freedOnce⟩ := guarded
  constructor <;> simp only [calls, allocated, freed, keeps.canceling, keeps.timerCall] <;>
    try assumption
  exact fun item canceling => keeps.pending item canceling (free item canceling)

omit [DecidableEq Queue] [DecidableEq Thread] in
/-- The entry of an item keeps its flags, and its timer has this thread call now. -/
theorem work_timerCall (s : State Queue Item Thread) (item : Item) (call : Option Nat) :
    (s.setEntry item { s.items item with timerCall := call }).work = s.work := by
  rw [State.work_setEntry]
  exact Function.update_eq_self item s.work

omit [DecidableEq Queue] [DecidableEq Thread] in
theorem timerCall_setEntry (s : State Queue Item Thread) (item other : Item) (call : Option Nat) :
    ((s.setEntry item { s.items item with timerCall := call }).items other).timerCall =
      if other = item then call else (s.items other).timerCall := by
  by_cases same : other = item
  · subst same
    simp [State.setEntry]
  · simp [State.setEntry, same]

omit [DecidableEq Queue] [DecidableEq Thread] in
/-- The thread call of a timer is a new one. -/
theorem allocateTimer (guarded : Guarded s) (item : Item) : Guarded (s.allocateTimer item) := by
  have work : (s.allocateTimer item).work = s.work := work_timerCall s item _
  have timerCall : ∀ other, ((s.allocateTimer item).items other).timerCall =
      if other = item then some s.allocated else (s.items other).timerCall :=
    (timerCall_setEntry s item · _)
  have calls : (s.allocateTimer item).calls = s.calls := rfl
  have freed : (s.allocateTimer item).freed = s.freed := rfl
  have allocated : (s.allocateTimer item).allocated = s.allocated + 1 := rfl
  obtain ⟨alone, canceling, free, known, distinct, freedKnown, isFreed, freedOnce⟩ := guarded
  constructor <;> simp only [work, timerCall, calls, freed, allocated] <;> try assumption
  all_goals grind

omit [DecidableEq Thread] in
theorem queueDelayedWork (guarded : Guarded s) (queue : Queue) (item : Item) (allocates : Bool) :
    Guarded (s.queueDelayedWork queue item allocates).1 := by
  unfold State.queueDelayedWork
  split
  · rename_i admitted
    obtain ⟨-, -, calm, -⟩ := State.of_admits admitted
    have assigned : Keeps s (s.setWork item { s.work item with wq := some queue }) :=
      .write _ rfl rfl rfl rfl fun _ => id
    have armed : Guarded (s.assignDelayed queue item allocates) ∧
        ((s.assignDelayed queue item allocates).work item).canceling = false := by
      unfold State.assignDelayed
      dsimp only
      split
      · refine ⟨(guarded.of_keeps assigned).allocateTimer item, ?_⟩
        have work := work_timerCall (s.setWork item { s.work item with wq := some queue }) item
          (some s.allocated)
        exact (congrArg (fun work => (work item).canceling) work).trans
          ((assigned.canceling item).trans calm)
      · exact ⟨guarded.of_keeps assigned, (assigned.canceling item).trans calm⟩
    obtain ⟨guarded, calm⟩ := armed
    dsimp only
    generalize s.assignDelayed queue item allocates = armed at guarded calm
    have delays : Keeps armed (armed.setWork item { armed.work item with pending := .delayed }) :=
      .write _ rfl rfl rfl rfl fun canceling => by simp [calm] at canceling
    split
    · exact guarded.of_keeps (delays.trans (.countAccepted _ item))
    · exact guarded
  · exact guarded

omit [DecidableEq Queue] [DecidableEq Item] in
/-- Another call of a thread that guards nothing. -/
theorem setCall (guarded : Guarded s) {thread : Thread} {call : Option (Call Queue Item)}
    (none : ∀ under, call = some under → under.cancels = none)
    (idle : ∀ item, s.calls thread ≠ some (.freedTimer item)) :
    Guarded (s.setCall thread call) := by
  have calls : ∀ other, (s.setCall thread call).calls other =
      if other = thread then call else s.calls other :=
    fun other => Function.update_apply s.calls thread call other
  obtain ⟨alone, canceling, free, known, distinct, freedKnown, freed, freedOnce⟩ := guarded
  have work : (s.setCall thread call).work = s.work := rfl
  have items : (s.setCall thread call).items = s.items := rfl
  have isFreed : (s.setCall thread call).freed = s.freed := rfl
  constructor <;> simp only [work, items, isFreed, calls] <;> try assumption
  all_goals grind

omit [DecidableEq Queue] [DecidableEq Thread] in
/-- The item of a cancellation is refused and removed. -/
theorem work_beginCancel (s : State Queue Item Thread) (item other : Item) :
    (s.beginCancel item).work other =
      if other = item then { s.work item with pending := .no, canceling := true }
      else s.work other := by
  have items := (s.setCanceling item true).items_removePendingWork item
  have canceling : (s.setCanceling item true).work item =
      { s.work item with canceling := true } := by
    simp [State.setCanceling, State.setWork, State.work_setEntry]
  have same : (s.beginCancel item).work other = (Function.update (s.setCanceling item true).items
      item _ other).work := congrArg (fun items => (items other).work) items
  rw [same, Function.update_apply]
  split
  · simp only [canceling]
  · rename_i different
    simp [State.setCanceling, State.setWork, State.setEntry, State.work, different]

omit [DecidableEq Queue] [DecidableEq Thread] in
theorem timerCall_beginCancel (s : State Queue Item Thread) (item other : Item) :
    ((s.beginCancel item).items other).timerCall = (s.items other).timerCall := by
  have sets : ((s.setCanceling item true).items other).timerCall = (s.items other).timerCall := by
    by_cases same : other = item
    · subst same
      simp [State.setCanceling, State.setWork, State.setEntry]
    · simp [State.setCanceling, State.setWork, State.setEntry, same]
  exact ((Keeps.removePendingWork _ item).timerCall other).trans sets

omit [DecidableEq Queue] in
/-- A cancellation starts, and none of the same item is under way. -/
theorem beginCancel (guarded : Guarded s) {thread : Thread} {call : Call Queue Item} {item : Item}
    (cancels : call.cancels = some item) (idle : s.calls thread = none)
    (apart : ∀ other under, s.calls other = some under →
      under.cancels = none ∨ under.cancels ≠ call.cancels) :
    Guarded ((s.beginCancel item).setCall thread (some call)) := by
  have calls : ∀ other, ((s.beginCancel item).setCall thread (some call)).calls other =
      if other = thread then some call else s.calls other := by
    intro other
    have kept := congrArg Prod.fst (Keeps.removePendingWork (s.setCanceling item true) item).rest
    have kept : (s.beginCancel item).calls = s.calls := kept
    rw [← kept]
    exact Function.update_apply _ thread (some call) other
  have work := work_beginCancel s item
  have timerCall := timerCall_beginCancel s item
  have rest := (Keeps.removePendingWork (s.setCanceling item true) item).rest
  have rest : (s.beginCancel item).allocated = s.allocated ∧ (s.beginCancel item).freed = s.freed :=
    ⟨congrArg (fun rest => rest.2.1) rest, congrArg (fun rest => rest.2.2) rest⟩
  have work : ∀ other, ((s.beginCancel item).setCall thread (some call)).work other =
      if other = item then { s.work item with pending := .no, canceling := true }
      else s.work other := work
  have timerCall : ∀ other, (((s.beginCancel item).setCall thread (some call)).items
      other).timerCall = (s.items other).timerCall := timerCall
  have allocated : ((s.beginCancel item).setCall thread (some call)).allocated = s.allocated :=
    rest.1
  have isFreed : ((s.beginCancel item).setCall thread (some call)).freed = s.freed := rest.2
  obtain ⟨alone, canceling, free, known, distinct, freedKnown, freed, freedOnce⟩ := guarded
  constructor <;> simp only [work, timerCall, isFreed, calls, allocated] <;> try assumption
  all_goals grind

omit [DecidableEq Queue] [DecidableEq Item] in
theorem calls_setCall (s : State Queue Item Thread) (thread other : Thread)
    (call : Option (Call Queue Item)) :
    (s.setCall thread call).calls other = if other = thread then call else s.calls other :=
  Function.update_apply s.calls thread call other

omit [DecidableEq Queue] [DecidableEq Item] in
/-- A cancellation goes on with another part of its function. -/
theorem move (guarded : Guarded s) {thread : Thread} {before after : Call Queue Item} {item : Item}
    (under : s.calls thread = some before) (cancels : before.cancels = some item)
    (goesOn : after.cancels = some item) (stays : before ≠ .freedTimer item) :
    Guarded (s.setCall thread (some after)) := by
  have calls : ∀ other, (s.setCall thread (some after)).calls other =
      if other = thread then some after else s.calls other := (calls_setCall s thread · _)
  have work : (s.setCall thread (some after)).work = s.work := rfl
  have items : (s.setCall thread (some after)).items = s.items := rfl
  have isFreed : (s.setCall thread (some after)).freed = s.freed := rfl
  have allocated : (s.setCall thread (some after)).allocated = s.allocated := rfl
  have cancelsFreed : ∀ item : Item, (Call.freedTimer item : Call Queue Item).cancels = some item :=
    fun _ => rfl
  obtain ⟨alone, canceling, free, known, distinct, freedKnown, freed, freedOnce⟩ := guarded
  constructor <;> simp only [work, items, isFreed, calls, allocated] <;> try assumption
  all_goals grind

omit [DecidableEq Queue] in
/-- `thread_call_free` frees a thread call that is not freed yet. -/
theorem stopTimer (guarded : Guarded s) {thread : Thread} {item : Item}
    (under : s.calls thread = some (.stopTimer item)) :
    Guarded (s.goOn thread (.stopTimer item)) := by
  have calls : ∀ other, (s.goOn thread (.stopTimer item)).calls other =
      if other = thread then some (.freedTimer item) else s.calls other :=
    (calls_setCall s thread · _)
  have work : (s.goOn thread (.stopTimer item)).work = s.work := rfl
  have items : (s.goOn thread (.stopTimer item)).items = s.items := rfl
  have isFreed : (s.goOn thread (.stopTimer item)).freed =
      (s.items item).timerCall.toList ++ s.freed := rfl
  have allocated : (s.goOn thread (.stopTimer item)).allocated = s.allocated := rfl
  have cancels : ∀ item : Item, (Call.stopTimer item : Call Queue Item).cancels = some item :=
    fun _ => rfl
  have cancelsFreed : ∀ item : Item, (Call.freedTimer item : Call Queue Item).cancels = some item :=
    fun _ => rfl
  obtain ⟨alone, canceling, free, known, distinct, freedKnown, freed, freedOnce⟩ := guarded
  have fresh : ∀ number, (s.items item).timerCall = some number → number ∉ s.freed := by
    intro number held isFreed
    obtain ⟨other, frees⟩ := freed item number held isFreed
    have same := alone item thread other _ _ under rfl frees rfl
    rw [same, frees] at under
    cases under
  constructor <;> simp only [work, items, isFreed, calls, allocated, List.mem_append,
    Option.mem_toList] <;> try assumption
  · grind
  · grind
  · grind
  · rintro other number held (new | old)
    · exact ⟨thread, by simp [distinct other item number held new]⟩
    · obtain ⟨caller, frees⟩ := freed other number held old
      exact ⟨caller, by grind⟩
  · cases held : (s.items item).timerCall with
    | none => exact freedOnce
    | some number => exact List.nodup_cons.mpr ⟨fresh number held, freedOnce⟩

omit [DecidableEq Queue] in
/-- The freed thread call is forgotten. -/
theorem freedTimer (guarded : Guarded s) {thread : Thread} {item : Item}
    (under : s.calls thread = some (.freedTimer item)) :
    Guarded (s.goOn thread (.freedTimer item)) := by
  have calls : ∀ other, (s.goOn thread (.freedTimer item)).calls other =
      if other = thread then some (.cancelDelayed item) else s.calls other :=
    (calls_setCall (s.setEntry item { s.items item with timerCall := none }) thread · _)
  have work : (s.goOn thread (.freedTimer item)).work = s.work := work_timerCall s item none
  have timerCall : ∀ other, ((s.goOn thread (.freedTimer item)).items other).timerCall =
      if other = item then none else (s.items other).timerCall :=
    (timerCall_setEntry s item · none)
  have isFreed : (s.goOn thread (.freedTimer item)).freed = s.freed := rfl
  have allocated : (s.goOn thread (.freedTimer item)).allocated = s.allocated := rfl
  have cancels : ∀ item : Item, (Call.cancelDelayed item : Call Queue Item).cancels = some item :=
    fun _ => rfl
  have cancelsFreed : ∀ item : Item, (Call.freedTimer item : Call Queue Item).cancels = some item :=
    fun _ => rfl
  obtain ⟨alone, canceling, free, known, distinct, freedKnown, freed, freedOnce⟩ := guarded
  constructor <;> simp only [work, timerCall, isFreed, calls, allocated] <;> try assumption
  all_goals grind

omit [DecidableEq Queue] in
/-- A cancellation returns and stops refusing its item. -/
theorem calm (guarded : Guarded s) {thread : Thread} {call : Call Queue Item} {item : Item}
    (under : s.calls thread = some call) (cancels : call.cancels = some item)
    (stays : call ≠ .freedTimer item) :
    Guarded ((s.setCanceling item false).setCall thread none) := by
  have calls : ∀ other, ((s.setCanceling item false).setCall thread none).calls other =
      if other = thread then none else s.calls other :=
    (calls_setCall (s.setCanceling item false) thread · none)
  have work : ∀ other, ((s.setCanceling item false).setCall thread none).work other =
      if other = item then { s.work item with canceling := false } else s.work other := by
    intro other
    have written := s.work_setEntry item { s.items item with
      work := { s.work item with canceling := false } }
    exact (congrFun written other).trans (Function.update_apply s.work item _ other)
  have timerCall : ∀ other, (((s.setCanceling item false).setCall thread none).items
      other).timerCall = (s.items other).timerCall := by
    intro other
    by_cases same : other = item
    · subst same
      simp [State.setCall, State.setCanceling, State.setWork, State.setEntry]
    · simp [State.setCall, State.setCanceling, State.setWork, State.setEntry, same]
  have isFreed : ((s.setCanceling item false).setCall thread none).freed = s.freed := rfl
  have allocated : ((s.setCanceling item false).setCall thread none).allocated = s.allocated := rfl
  have cancelsFreed : ∀ item : Item, (Call.freedTimer item : Call Queue Item).cancels = some item :=
    fun _ => rfl
  obtain ⟨alone, canceling, free, known, distinct, freedKnown, freed, freedOnce⟩ := guarded
  constructor <;> simp only [work, timerCall, isFreed, calls, allocated] <;> try assumption
  all_goals grind

omit [DecidableEq Queue] in
/-- A call that is in its loop sleeps or returns. -/
theorem await (guarded : Guarded s) {thread : Thread} {call : Call Queue Item}
    (under : s.calls thread = some call)
    (loops : ∀ item, call.cancels = some item →
      call = .cancelWork item ∨ call = .cancelDelayed item) :
    Guarded (s.await thread call) := by
  unfold State.await
  split
  · have same : s.setCall thread (some call) = s := by
      rw [← under]
      exact congrArg (fun calls => { s with calls }) (Function.update_eq_self thread s.calls)
    rwa [same]
  · cases guards : call.cancels with
    | none =>
        have concluded : s.conclude call = s := by cases call <;> first | rfl | cases guards
        rw [concluded]
        refine guarded.setCall nofun fun item freed => ?_
        rw [under, Option.some.injEq] at freed
        rw [freed] at guards
        cases guards
    | some item =>
        have concluded : s.conclude call = s.setCanceling item false := by
          rcases loops item guards with rfl | rfl <;> rfl
        rw [concluded]
        refine guarded.calm under guards ?_
        rcases loops item guards with rfl | rfl <;> nofun

omit [DecidableEq Queue] in
/-- A call that starts is under way until it returns. -/
theorem await_setCall (s : State Queue Item Thread) (thread : Thread) (call : Call Queue Item) :
    (s.setCall thread (some call)).await thread call = s.await thread call := by
  have blocks : (s.setCall thread (some call)).blocks call = s.blocks call := by cases call <;> rfl
  have again : ∀ (u : State Queue Item Thread) after,
      (u.setCall thread (some call)).setCall thread after = u.setCall thread after := by
    intro u after
    simp [State.setCall]
  have concludes : (s.setCall thread (some call)).conclude call =
      (s.conclude call).setCall thread (some call) := by cases call <;> rfl
  unfold State.await
  rw [blocks, concludes, again, again]

theorem beginCall (guarded : Guarded s) {thread : Thread} {call : Call Queue Item}
    (idle : s.calls thread = none) (apart : cancelsApart (.begin thread call) s)
    (taken : s.beginCall thread call = some t) : Guarded t := by
  have waits : ∀ (u : State Queue Item Thread) (call : Call Queue Item), Guarded u →
      u.calls thread = none → call.cancels = none → Guarded (u.await thread call) := by
    intro u call guarded idle none
    have started : Guarded (u.setCall thread (some call)) := by
      refine guarded.setCall ?_ fun item => by simp [idle]
      rintro _ ⟨⟩
      exact none
    rw [← await_setCall]
    exact started.await (by simp [State.setCall]) fun item cancels => by simp [none] at cancels
  cases call with
  | cancelWork item =>
      cases taken
      rw [← await_setCall]
      refine (guarded.beginCancel rfl idle apart).await (by simp [State.setCall]) ?_
      exact fun _ same => .inl (by cases same; rfl)
  | deleteTimer item =>
      cases taken
      exact guarded.beginCancel rfl idle apart
  | flushQueue | flushWork =>
      cases taken
      exact waits s _ guarded idle rfl
  | destroyQueue queue =>
      cases taken
      refine waits _ _ (guarded.of_keeps ?_) idle rfl
      exact ⟨rfl, fun _ => rfl, fun _ => rfl, fun _ _ => id⟩
  | stopTimer | freedTimer | cancelDelayed => cases taken

end Guarded

theorem step_guarded {label : Label Queue Item Thread} {s t : State Queue Item Thread}
    (allowed : cancelsApart label s) (taken : step label s = some t) (guarded : Guarded s) :
    Guarded t := by
  cases label with
  | queueWork queue item =>
      cases taken
      exact guarded.of_keeps (.queueWork s queue item)
  | queueDelayedWork queue item allocates =>
      cases taken
      exact guarded.queueDelayedWork queue item allocates
  | delayedWorkTimerFn item =>
      cases taken
      exact guarded.of_keeps (.delayedWorkTimerFn s item)
  | takeWork queue => exact guarded.of_keeps (.takeWork taken)
  | finishWork queue => exact guarded.of_keeps (.finishWork taken)
  | exitWorker queue => exact guarded.of_keeps (.exitWorker taken)
  | cancelDelayedWork item =>
      cases taken
      exact guarded.of_keeps (.removePendingWork s item)
  | begin thread call =>
      simp only [step] at taken
      split at taken
      · exact guarded.beginCall ‹_› allowed taken
      · cases taken
  | goOn thread =>
      obtain ⟨call, under, rfl⟩ := Option.map_eq_some_iff.mp taken
      cases call with
      | deleteTimer item =>
          simp only [State.goOn]
          split <;> exact guarded.move under rfl rfl (by rintro ⟨⟩)
      | stopTimer item => exact guarded.stopTimer under
      | freedTimer item => exact guarded.freedTimer under
      | cancelWork item => exact guarded.await under fun _ same => .inl (by cases same; rfl)
      | cancelDelayed item => exact guarded.await under fun _ same => .inr (by cases same; rfl)
      | flushQueue | flushWork | destroyQueue => exact guarded.await under (by rintro _ ⟨⟩)

theorem reaches_guarded {s : State Queue Item Thread}
    (run : machine.Reaches cancelsApart .initial s) : Guarded s := by
  refine run.keeps Guarded (fun _ _ _ allowed taken => step_guarded allowed taken) ?_
  constructor <;> simp [State.initial, State.work]

/-- If cancellations of one item never overlap, each keeps its promises. -/
theorem cancelsApart_cancels (Queue Item Thread : Type) [DecidableEq Queue] [DecidableEq Item]
    [DecidableEq Thread] (s : State Queue Item Thread) :
    AlwaysCancels cancelsApart Queue Item Thread s := by
  intro run
  have guarded := reaches_guarded run
  refine ⟨fun label t call item allowed taken returns cancels => ?_,
    fun thread call item under cancels queue => ?_, guarded.freedOnce⟩
  · obtain ⟨u, thread, passes, rfl, source⟩ := concluded_of_returns taken returns
    obtain ⟨waits, source⟩ := source item cancels
    have free : (u.work item).pending = .no := by
      rcases source with rfl | ⟨rfl, under⟩
      · rw [Guarded.work_beginCancel, if_pos rfl]
      · exact guarded.free item (guarded.canceling item thread call under cancels)
    have calms : ((u.setCanceling item false).setCall thread none).work item =
        { u.work item with canceling := false } := by
      have written := u.work_setEntry item { u.items item with
        work := { u.work item with canceling := false } }
      exact (congrFun written item).trans (Function.update_self item _ u.work)
    rcases waits with rfl | rfl <;>
    · simp only [State.conclude, calms]
      exact ⟨free, passes⟩
  · have refuses : s.admits queue item = false := by
      simp [State.admits, guarded.canceling item thread call under cancels]
    simp [State.queueWork, State.queueWorkLocked, State.queueDelayedWork, refuses]

/-- Two cancellations of one item wait for it.  The first to return accepts it again. -/
theorem not_free_cancels : ¬ ∀ (Queue Item Thread : Type) [DecidableEq Queue] [DecidableEq Item]
    [DecidableEq Thread] (s : State Queue Item Thread),
    AlwaysCancels Machine.free Queue Item Thread s := by
  intro cancels
  have second := cancels Unit Unit Bool _ (Machine.reaches_of_play
    [.queueWork () (), .takeWork (), .begin false (.cancelWork ()), .begin true (.cancelWork ()),
      .finishWork (), .goOn false] rfl)
  exact absurd (second.refused true (.cancelWork ()) () rfl rfl ()).1 (by decide)

end Workqueue

end AirportRtw88
