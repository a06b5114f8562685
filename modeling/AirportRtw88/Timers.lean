import AirportRtw88.ThreadCall
import AirportRtw88.Workqueue

/-!
# Timers over thread calls

A timer of `rtw88_compat.c` is a thread call with a flag, and the timer of a delayed work item
adds the state of the item.  Neither says which arming it belongs to.  An arming is counted when
`mod_timer` sets the flag, and every submission of the thread call is recorded with its arming.
-/

namespace AirportRtw88

open Interleave
open Workqueue (Pending)

namespace Rtw88Call

variable {c : Rtw88Call}

@[simp]
theorem dequeued_submit (delayed : Bool) :
    (c.submit delayed).1.native.dequeued = c.native.dequeued := by
  have canceled : c.native.cancel.1.dequeued = c.native.dequeued := by
    unfold NativeCall.cancel
    split <;> rfl
  unfold submit
  dsimp only
  split <;> split <;> first | exact canceled | rfl

/-- A call that nothing was dequeued from is retimed. -/
theorem submits_of_regular (regular : c.Regular) (accepts : c.canceling = false)
    (free : c.native.dequeued = []) : c.submits true = true := by
  unfold Regular NativeCall.outstanding at regular
  rw [free, List.append_nil] at regular
  unfold submits NativeCall.cancel
  cases waits : c.native.queued with
  | none => cases pending : c.pending <;> simp_all
  | some submission => simp [accepts]

theorem queued_of_submits {delayed : Bool} (regular : c.Regular)
    (submits : c.submits delayed = true) :
    (c.submit delayed).1.native.queued = some c.native.submitted := by
  have free := outstanding_of_submits regular submits
  have submitted := (cancel_native c.native).2.1
  unfold submit
  dsimp only
  rw [if_pos submits]
  generalize retimed : (if !c.canceling && c.pending && delayed then c.native.cancel.1
    else c.native) = native at free
  have same : native.submitted = c.native.submitted := by
    subst retimed
    split <;> first | exact submitted | rfl
  have unqueued : native.queued = none :=
    Option.toList_eq_nil_iff.mp (List.append_eq_nil_iff.mp free).1
  simp [NativeCall.enter, unqueued, same]

end Rtw88Call

namespace Timers

/-- Where a callback is: before the test of `timer->active`, before `timer->active = 0`, at the
start of `rtw88_delayed_work_timer_fn`, or at its end. -/
inductive Stage where
  | entered
  | fires
  | expired
  | done
  deriving DecidableEq

/-- A call under way: before the `thread_call_enter_delayed` of `mod_timer`, or before the
`timer->active = 0` of `del_timer`. -/
inductive Position where
  | arming
  | deleting
  deriving DecidableEq

structure State (Thread : Type) where
  /-- The timer is that of a delayed work item. -/
  delayed : Bool
  call : Option Rtw88Call
  active : Bool
  /-- `work_state_lock` is held. -/
  locked : Bool
  pending : Pending
  inside : List (Nat × Stage)
  calls : Thread → Option Position
  armings : Nat
  /-- The latest arming, unless it was cancelled. -/
  live : Option Nat
  arming : Nat → Nat

/-- The steps of the callers, of the kernel, of the callbacks and of the worker. -/
inductive Label (Thread : Type) where
  | modTimer (thread : Thread) (allocates : Bool)
  | queueDelayedWork (thread : Thread) (allocates : Bool)
  | enterDelayed (thread : Thread)
  | delTimer (thread : Thread)
  | cancelDelayedWork (thread : Thread)
  | clearActive (thread : Thread)
  | dequeue
  | enterDispatch (submission : Nat)
  | timerCallFn (submission : Nat)
  | function (submission : Nat)
  | delayedWorkTimerFn (submission : Nat)
  | leaveDispatch (submission : Nat)
  | queueWork
  | takeWork

namespace State

variable {Thread : Type}

/-- After `timer_setup`. -/
def initial (delayed : Bool) : State Thread :=
  ⟨delayed, none, false, false, .no, [], fun _ => none, 0, none, fun _ => 0⟩

def withCall (s : State Thread) (call : Rtw88Call) : State Thread :=
  { s with call := some call }

/-- The thread call of the timer after the first lines of `mod_timer`. -/
def allocated (s : State Thread) (allocates : Bool) : Option Rtw88Call :=
  match s.call with
  | some call => some call
  | none => if allocates then some .allocate else none

/-- `mod_timer` up to `timer->active = 1`. -/
def activate (s : State Thread) (call : Rtw88Call) : State Thread :=
  { s.withCall call with
    active := true
    armings := s.armings + 1
    live := some (s.armings + 1) }

/-- `thread_call_enter_delayed`; a new submission is recorded with the latest arming. -/
def submit (s : State Thread) : State Thread :=
  match s.call with
  | none => s
  | some call =>
      { s.withCall (call.submit true).1 with
        arming := if call.submits true
          then Function.update s.arming call.native.submitted s.armings
          else s.arming }

/-- A callback at a stage has yet to look at `timer->active`, or at the state of the item. -/
def looks (s : State Thread) : Stage → Bool
  | .entered => true
  | .fires | .expired => s.delayed
  | .done => false

/-- The expiries that have not taken their last look. -/
def unsettled (s : State Thread) : List Nat :=
  s.call.elim [] (fun call => call.native.dequeued) ++
    (s.inside.filter fun entry => s.looks entry.2).map Prod.fst

/-- A callback goes on to another stage. -/
def move (s : State Thread) (submission : Nat) (before after : Stage) : State Thread :=
  { s with inside := (submission, after) :: s.inside.erase (submission, before) }

/-- `rtw88_delayed_work_timer_fn`: an item that waits for its timer is queued. -/
def promote (s : State Thread) : State Thread :=
  { s with pending := if s.pending = .delayed then .queued else s.pending }

/-- The submission that waits for its deadline. -/
def queued (s : State Thread) : Option Nat :=
  s.call.bind fun (c : Rtw88Call) => c.native.queued

variable [DecidableEq Thread]

def setPosition (s : State Thread) (thread : Thread) (position : Option Position) : State Thread :=
  { s with calls := Function.update s.calls thread position }

end State

variable {Thread : Type} [DecidableEq Thread]

def step : Label Thread → State Thread → Option (State Thread)
  | .modTimer thread allocates, s =>
      if s.delayed = false ∧ s.calls thread = none then
        match s.allocated allocates with
        | none => some s
        | some call => some ((s.activate call).setPosition thread (some .arming))
      else none
  | .queueDelayedWork thread allocates, s =>
      if s.delayed = true ∧ s.calls thread = none ∧ s.locked = false then
        match s.allocated allocates with
        | none => some s
        | some call =>
            if s.pending = .no then
              some { (s.activate call).setPosition thread (some .arming) with
                locked := true
                pending := .delayed }
            else some s
      else none
  | .enterDelayed thread, s =>
      if s.calls thread = some .arming then
        some { s.submit.setPosition thread none with locked := false }
      else none
  | .delTimer thread, s =>
      if s.delayed = false ∧ s.calls thread = none then
        some ({ s with call := s.call.map fun (c : Rtw88Call) => c.cancel.1 }.setPosition thread
          (some .deleting))
      else none
  | .cancelDelayedWork thread, s =>
      if s.delayed = true ∧ s.calls thread = none ∧ s.locked = false then
        some ({ s with
          call := s.call.map fun (c : Rtw88Call) => c.cancel.1
          locked := true
          pending := .no }.setPosition thread (some .deleting))
      else none
  | .clearActive thread, s =>
      if s.calls thread = some .deleting then
        some ({ s with active := false, live := none, locked := false }.setPosition thread none)
      else none
  | .dequeue, s => (s.call.bind Rtw88Call.dequeue).map s.withCall
  | .enterDispatch submission, s =>
      match s.call with
      | none => none
      | some call =>
          if submission ∈ call.native.dequeued then
            some { s.withCall (call.enterDispatch submission) with
              inside := (submission, if call.canceling then .done else .entered) :: s.inside }
          else none
  | .timerCallFn submission, s =>
      if (submission, .entered) ∈ s.inside then
        some (s.move submission .entered (if s.active then .fires else .done))
      else none
  | .function submission, s =>
      if (submission, .fires) ∈ s.inside then
        some { s.move submission .fires (if s.delayed then .expired else .done) with
          active := false }
      else none
  | .delayedWorkTimerFn submission, s =>
      if (submission, .expired) ∈ s.inside ∧ s.locked = false then
        some (s.promote.move submission .expired .done)
      else none
  | .leaveDispatch submission, s =>
      match s.call with
      | none => none
      | some call =>
          if (submission, .done) ∈ s.inside then
            some { s.withCall call.leaveDispatch with
              inside := s.inside.erase (submission, .done) }
          else none
  | .queueWork, s =>
      if s.delayed = true ∧ s.locked = false ∧ s.pending = .no then
        some { s with pending := .queued }
      else none
  | .takeWork, s =>
      if s.delayed = true ∧ s.locked = false ∧ s.pending = .queued then
        some { s with pending := .no }
      else none

/-- The timer, its callers and its callbacks as a machine. -/
def machine : Machine (Label Thread) (State Thread) := ⟨step⟩

/-- From the start of an arming to its submission, no other arming of the timer starts, and no
expiry is between its dequeue and its last look. -/
def armsApart : Label Thread → State Thread → Prop
  | .modTimer _ _, s | .queueDelayedWork _ _, s =>
      s.unsettled = [] ∧ ∀ thread, s.calls thread ≠ some .arming
  | .dequeue, s => ∀ thread, s.calls thread ≠ some .arming
  | _, _ => True

/-- What expires in a state was armed last, and not cancelled. -/
structure Timely (s : State Thread) : Prop where
  /-- `timer_call_fn` decides to call the function of the timer on behalf of the latest arming. -/
  fires : ∀ submission t, step (.timerCallFn submission) s = some t → s.active = true →
    s.live = some (s.arming submission)
  /-- `rtw88_delayed_work_timer_fn` queues the item on behalf of the latest arming. -/
  promotes : ∀ submission t, step (.delayedWorkTimerFn submission) s = some t →
    s.pending = .delayed → s.live = some (s.arming submission)

/-- A timer is timely in every run of allowed steps. -/
def AlwaysTimely (allows : ∀ {Thread : Type}, Label Thread → State Thread → Prop)
    (Thread : Type) [DecidableEq Thread] (delayed : Bool) (s : State Thread) : Prop :=
  machine.Reaches allows (.initial delayed) s → Timely s

namespace State

section

variable {Thread : Type} {s t : State Thread}

/-- The flags and the lock: `active` and a delayed item are those of the latest arming. -/
structure Guarded (s : State Thread) : Prop where
  active : s.active = true → s.live = some s.armings
  pending : s.pending = .delayed → s.delayed = true ∧ s.live = some s.armings
  holds : s.delayed = true → ∀ thread, s.calls thread ≠ none → s.locked = true
  alone : s.delayed = true → ∀ thread other, s.calls thread ≠ none → s.calls other ≠ none →
    other = thread
  deleting : s.delayed = true → ∀ thread, s.calls thread = some .deleting → s.pending ≠ .delayed

/-- What the steps of the kernel and of the callbacks keep of the flags and the lock. -/
theorem Guarded.of_keeps (guarded : s.Guarded)
    (same : (t.delayed, t.locked, t.calls, t.armings, t.live) =
      (s.delayed, s.locked, s.calls, s.armings, s.live))
    (active : t.active = true → s.active = true)
    (pending : t.pending = .delayed → s.pending = .delayed) :
    t.Guarded := by
  simp only [Prod.mk.injEq] at same
  obtain ⟨delayed, locked, calls, armings, live⟩ := same
  constructor <;> simp only [delayed, locked, calls, armings, live]
  · exact fun activates => guarded.active (active activates)
  · exact fun waits => guarded.pending (pending waits)
  · exact guarded.holds
  · exact guarded.alone
  · exact fun delayed thread under waits => guarded.deleting delayed thread under (pending waits)

theorem Guarded.submit (guarded : s.Guarded) : s.submit.Guarded := by
  unfold State.submit
  split
  · exact guarded
  · exact guarded.of_keeps rfl id id

/-- Which arming the expiries and the queued submission belong to: the latest, as no arming
starts while an expiry has yet to look. -/
structure Apart (s : State Thread) : Prop where
  call : ∀ call, s.call = some call → call.Regular ∧ call.canceling = false
  settled : ∀ thread, s.calls thread = some .arming → s.unsettled = []
  latest : ∀ submission ∈ s.unsettled, s.arming submission = s.armings
  queued : (∀ thread, s.calls thread ≠ some .arming) →
    ∀ submission, s.queued = some submission → s.arming submission = s.armings

theorem mem_unsettled {submission : Nat} : submission ∈ s.unsettled ↔
    (∃ call, s.call = some call ∧ submission ∈ call.native.dequeued) ∨
      ∃ stage, (submission, stage) ∈ s.inside ∧ s.looks stage = true := by
  unfold unsettled
  cases known : s.call <;> simp

/-- What a step that starts no arming, submits nothing and dequeues nothing keeps. -/
theorem Apart.of_keeps (apart : s.Apart)
    (call : ∀ call, t.call = some call → call.Regular ∧ call.canceling = false)
    (same : (t.armings, t.arming) = (s.armings, s.arming))
    (arms : ∀ thread, t.calls thread = some .arming ↔ s.calls thread = some .arming)
    (unsettled : t.unsettled ⊆ s.unsettled)
    (queued : ∀ submission, t.queued = some submission → s.queued = some submission) :
    t.Apart := by
  simp only [Prod.mk.injEq] at same
  obtain ⟨armings, arming⟩ := same
  refine ⟨call, fun thread under => ?_, fun submission looks => ?_, fun idle submission waits => ?_⟩
  · have none := apart.settled thread ((arms thread).mp under)
    exact List.subset_nil.mp (none ▸ unsettled)
  · rw [arming, armings]
    exact apart.latest submission (unsettled looks)
  · rw [arming, armings]
    exact apart.queued (fun thread under => idle thread ((arms thread).mpr under)) submission
      (queued submission waits)

/-- What a callback keeps. -/
theorem Apart.of_call (apart : s.Apart) (same : (t.call, t.armings, t.arming, t.calls) =
      (s.call, s.armings, s.arming, s.calls))
    (looks : ∀ submission stage, (submission, stage) ∈ t.inside → t.looks stage = true →
      submission ∈ s.unsettled) : t.Apart := by
  simp only [Prod.mk.injEq] at same
  obtain ⟨call, armings, arming, calls⟩ := same
  refine apart.of_keeps (by rw [call]; exact apart.call) (by rw [armings, arming])
    (fun thread => by rw [calls]) ?_ fun submission => by simp only [State.queued, call, imp_self]
  intro submission member
  rcases mem_unsettled.mp member with ⟨c, known, dequeued⟩ | ⟨stage, inside, looksAt⟩
  · exact mem_unsettled.mpr (.inl ⟨c, call ▸ known, dequeued⟩)
  · exact looks submission stage inside looksAt

/-- A callback that goes on looks later only if it has looked before. -/
theorem Apart.move (apart : s.Apart) {submission : Nat} {before : Stage}
    (after : Stage) (member : (submission, before) ∈ s.inside)
    (looks : s.looks after = true → s.looks before = true) :
    (s.move submission before after).Apart := by
  refine apart.of_call rfl fun other stage inside looksAt => mem_unsettled.mpr (.inr ?_)
  rcases List.mem_cons.mp inside with same | elsewhere
  · cases same
    exact ⟨before, member, looks looksAt⟩
  · exact ⟨stage, List.mem_of_mem_erase elsewhere, looksAt⟩

end

theorem calls_setPosition (s : State Thread) (thread : Thread) (position : Option Position)
    (other : Thread) : (s.setPosition thread position).calls other =
      if other = thread then position else s.calls other :=
  Function.update_apply s.calls thread position other

end State

theorem step_guarded {label : Label Thread} {s t : State Thread} (taken : step label s = some t)
    (guarded : s.Guarded) : t.Guarded := by
  have ⟨active, pending, holds, alone, deleting⟩ := guarded
  cases label with
  | modTimer thread allocates =>
      simp only [step] at taken
      split at taken
      · split at taken <;> cases taken
        · exact guarded
        · constructor <;> grind [State.setPosition, State.activate, State.withCall]
      · cases taken
  | queueDelayedWork thread allocates =>
      simp only [step] at taken
      split at taken
      · split at taken
        · cases taken
          exact guarded
        · split at taken <;> cases taken
          · have calls := s.calls_setPosition thread (some .arming)
            constructor <;>
              simp only [State.setPosition, State.activate, State.withCall] at * <;> grind
          · exact guarded
      · cases taken
  | enterDelayed thread =>
      simp only [step] at taken
      split at taken
      · cases taken
        have same : s.submit.calls = s.calls := by
          unfold State.submit
          split <;> rfl
        have ⟨active, pending, holds, alone, deleting⟩ := guarded.submit
        have calls := s.submit.calls_setPosition thread none
        constructor <;> simp only [State.setPosition, same] at * <;> grind
      · cases taken
  | delTimer thread =>
      simp only [step] at taken
      split at taken
      · cases taken
        have calls := s.calls_setPosition thread (some .deleting)
        constructor <;> simp only [State.setPosition] at * <;> grind
      · cases taken
  | cancelDelayedWork thread =>
      simp only [step] at taken
      split at taken
      · cases taken
        have calls := s.calls_setPosition thread (some .deleting)
        constructor <;> simp only [State.setPosition] at * <;> grind
      · cases taken
  | clearActive thread =>
      simp only [step] at taken
      split at taken
      · cases taken
        have calls := s.calls_setPosition thread none
        constructor <;> simp only [State.setPosition] at * <;> grind
      · cases taken
  | dequeue =>
      obtain ⟨call, -, rfl⟩ := Option.map_eq_some_iff.mp taken
      exact guarded.of_keeps rfl id id
  | enterDispatch submission =>
      simp only [step] at taken
      split at taken
      · cases taken
      · split at taken <;> cases taken
        exact guarded.of_keeps rfl id id
  | timerCallFn submission =>
      simp only [step] at taken
      split at taken <;> cases taken
      exact guarded.of_keeps rfl id id
  | function submission =>
      simp only [step] at taken
      split at taken <;> cases taken
      exact guarded.of_keeps rfl (by rintro ⟨⟩) id
  | delayedWorkTimerFn submission =>
      simp only [step] at taken
      split at taken <;> cases taken
      refine guarded.of_keeps rfl id ?_
      simp only [State.move, State.promote]
      split <;> simp
  | leaveDispatch submission =>
      simp only [step] at taken
      split at taken
      · cases taken
      · split at taken <;> cases taken
        exact guarded.of_keeps rfl id id
  | queueWork | takeWork =>
      simp only [step] at taken
      split at taken <;> cases taken
      exact guarded.of_keeps rfl id (by rintro ⟨⟩)

/-- An arming starts when nothing of an earlier one is left. -/
theorem State.Apart.activate {s : State Thread} (apart : s.Apart) (thread : Thread)
    {allocates : Bool} {call : Rtw88Call} (known : s.allocated allocates = some call)
    (free : s.unsettled = []) : ((s.activate call).setPosition thread (some .arming)).Apart := by
  have source : s.call = some call ∨ call = .allocate := by
    unfold State.allocated at known
    split at known
    · exact .inl (by simp_all)
    · exact .inr (by cases allocates <;> simp_all)
  have arms :
      ((s.activate call).setPosition thread (some .arming)).calls thread = some .arming := by
    simp [State.calls_setPosition]
  have unsettled : ((s.activate call).setPosition thread (some .arming)).unsettled = [] := by
    refine List.eq_nil_iff_forall_not_mem.mpr fun submission member => ?_
    have absent : submission ∉ s.unsettled := by simp [free]
    rcases State.mem_unsettled.mp member with ⟨_, ⟨⟩, dequeued⟩ | inside
    · rcases source with held | rfl
      · exact absent (State.mem_unsettled.mpr (.inl ⟨call, held, dequeued⟩))
      · cases dequeued
    · exact absent (State.mem_unsettled.mpr (.inr inside))
  refine ⟨?_, fun _ _ => unsettled, by simp [unsettled], fun idle => absurd arms (idle thread)⟩
  rintro _ ⟨⟩
  rcases source with held | rfl
  · exact apart.call call held
  · exact ⟨rfl, rfl⟩

/-- The thread call is taken from the queue of the kernel, if it is still there. -/
theorem State.Apart.cancel {s : State Thread} (apart : s.Apart) {thread : Thread}
    (idle : s.calls thread = none) :
    ({ s with call := s.call.map fun (c : Rtw88Call) => c.cancel.1 }.setPosition thread
      (some .deleting)).Apart := by
  have canceled : ∀ c : Rtw88Call, c.cancel.1.native.dequeued = c.native.dequeued ∧
      c.cancel.1.native.queued = none := by
    intro c
    simp only [Rtw88Call.cancel, NativeCall.cancel]
    split <;> simp_all
  refine apart.of_keeps ?_ rfl (fun other => ?_) ?_ fun submission waits => ?_
  · intro call known
    obtain ⟨c, held, rfl⟩ := Option.map_eq_some_iff.mp known
    have ⟨regular, accepts⟩ := apart.call c held
    exact ⟨regular.cancel rfl rfl, accepts⟩
  · rw [State.calls_setPosition]
    split
    · simp_all
    · rfl
  · intro submission member
    rcases State.mem_unsettled.mp member with ⟨call, known, dequeued⟩ | inside
    · obtain ⟨c, held, rfl⟩ := Option.map_eq_some_iff.mp known
      exact State.mem_unsettled.mpr (.inl ⟨c, held, (canceled c).1 ▸ dequeued⟩)
    · exact State.mem_unsettled.mpr (.inr inside)
  · obtain ⟨call, known, queued⟩ := Option.bind_eq_some_iff.mp waits
    obtain ⟨c, held, rfl⟩ := Option.map_eq_some_iff.mp known
    rw [(canceled c).2] at queued
    cases queued

/-- What is submitted is the latest arming: nothing else is left in the kernel. -/
theorem State.Apart.submit {s : State Thread} (apart : s.Apart) {thread : Thread}
    (under : s.calls thread = some .arming) : (s.submit.setPosition thread none).Apart := by
  have free := apart.settled thread under
  cases held : s.call with
  | none =>
      have same : s.submit = s := by simp only [State.submit, held]
      rw [same]
      refine ⟨apart.call, fun _ _ => free, apart.latest, fun _ submission waits => ?_⟩
      simp [State.queued, State.setPosition, held] at waits
  | some call =>
      have ⟨regular, accepts⟩ := apart.call call held
      have unsettled : (s.submit.setPosition thread none).unsettled = s.unsettled := by
        simp [State.unsettled, State.submit, State.withCall, State.setPosition, held, State.looks]
      have none : call.native.dequeued = [] := by
        refine List.eq_nil_iff_forall_not_mem.mpr fun submission member => ?_
        have looks : submission ∈ s.unsettled := State.mem_unsettled.mpr (.inl ⟨call, held, member⟩)
        simp [free] at looks
      have submits := Rtw88Call.submits_of_regular regular accepts none
      have queued :
          (s.submit.setPosition thread Option.none).queued = some call.native.submitted := by
        simp [State.queued, State.submit, State.withCall, State.setPosition, held,
          Rtw88Call.queued_of_submits regular submits]
      refine ⟨?_, fun _ _ => unsettled.trans free, by simp [unsettled, free], ?_⟩
      · intro c known
        simp only [State.submit, held, State.setPosition, State.withCall,
          Option.some.injEq] at known
        subst known
        exact ⟨regular.submit true, by simp [accepts]⟩
      · intro _ submission waits
        rw [queued, Option.some.injEq] at waits
        subst waits
        simp [State.submit, held, State.setPosition, State.withCall, submits]

theorem step_apart {label : Label Thread} {s t : State Thread} (allowed : armsApart label s)
    (taken : step label s = some t) (apart : s.Apart) : t.Apart := by
  cases label with
  | modTimer thread allocates =>
      simp only [step] at taken
      split at taken
      · split at taken <;> cases taken
        · exact apart
        · exact apart.activate thread ‹_› allowed.1
      · cases taken
  | queueDelayedWork thread allocates =>
      simp only [step] at taken
      split at taken
      · split at taken
        · cases taken
          exact apart
        · split at taken <;> cases taken
          · have activated := apart.activate thread ‹_› allowed.1
            exact ⟨activated.call, activated.settled, activated.latest, activated.queued⟩
          · exact apart
      · cases taken
  | enterDelayed thread =>
      simp only [step] at taken
      split at taken
      · cases taken
        have submitted := apart.submit ‹_›
        exact ⟨submitted.call, submitted.settled, submitted.latest, submitted.queued⟩
      · cases taken
  | delTimer thread =>
      simp only [step] at taken
      split at taken
      · rename_i enabled
        cases taken
        exact apart.cancel enabled.2
      · cases taken
  | cancelDelayedWork thread =>
      simp only [step] at taken
      split at taken
      · rename_i enabled
        cases taken
        have canceled := apart.cancel enabled.2.1
        exact ⟨canceled.call, canceled.settled, canceled.latest, canceled.queued⟩
      · cases taken
  | clearActive thread =>
      simp only [step] at taken
      split at taken
      · rename_i enabled
        cases taken
        refine apart.of_keeps apart.call rfl (fun other => ?_) (List.Subset.refl _) fun _ => id
        rw [State.calls_setPosition]
        split <;> simp_all
      · cases taken
  | dequeue =>
      obtain ⟨call, dequeued, rfl⟩ := Option.map_eq_some_iff.mp taken
      have ⟨c, held, taken⟩ := Option.bind_eq_some_iff.mp dequeued
      have ⟨submission, waits, fresh⟩ := Option.map_eq_some_iff.mp taken
      subst fresh
      have latest : s.arming submission = s.armings :=
        apart.queued allowed submission (Option.bind_eq_some_iff.mpr ⟨c, held, waits⟩)
      refine ⟨?_, fun thread under => absurd under (allowed thread), ?_, fun _ _ => nofun⟩
      · rintro _ ⟨⟩
        have ⟨regular, accepts⟩ := apart.call c held
        exact ⟨(regular.dequeue taken).1, accepts⟩
      · intro other member
        rcases State.mem_unsettled.mp member with ⟨_, ⟨⟩, dequeued⟩ | inside
        · rcases List.mem_cons.mp dequeued with rfl | before
          · exact latest
          · exact apart.latest other (State.mem_unsettled.mpr (.inl ⟨c, held, before⟩))
        · exact apart.latest other (State.mem_unsettled.mpr (.inr inside))
  | enterDispatch submission =>
      simp only [step] at taken
      split at taken
      · cases taken
      · split at taken <;> cases taken
        rename_i call held dequeued
        have ⟨regular, accepts⟩ := apart.call call held
        refine apart.of_keeps ?_ rfl (fun _ => Iff.rfl) ?_ ?_
        · rintro _ ⟨⟩
          exact ⟨regular.enterDispatch dequeued, accepts⟩
        · intro other member
          rcases State.mem_unsettled.mp member with ⟨_, ⟨⟩, before⟩ | ⟨stage, inside, looks⟩
          · exact State.mem_unsettled.mpr (.inl ⟨call, held, List.mem_of_mem_erase before⟩)
          · rcases List.mem_cons.mp inside with same | inside
            · cases same
              exact State.mem_unsettled.mpr (.inl ⟨call, held, dequeued⟩)
            · exact State.mem_unsettled.mpr (.inr ⟨stage, inside, looks⟩)
        · intro other waits
          exact Option.bind_eq_some_iff.mpr ⟨call, held, waits⟩
  | timerCallFn submission =>
      simp only [step] at taken
      split at taken <;> cases taken
      exact apart.move _ ‹_› fun _ => rfl
  | function submission =>
      simp only [step] at taken
      split at taken <;> cases taken
      have moved := apart.move (if s.delayed then .expired else .done) ‹_›
        (by cases s.delayed <;> simp [State.looks])
      exact ⟨moved.call, moved.settled, moved.latest, moved.queued⟩
  | delayedWorkTimerFn submission =>
      simp only [step] at taken
      split at taken <;> cases taken
      rename_i enabled
      have promoted : s.promote.Apart := ⟨apart.call, apart.settled, apart.latest, apart.queued⟩
      exact promoted.move _ enabled.1 nofun
  | leaveDispatch submission =>
      simp only [step] at taken
      split at taken
      · cases taken
      · split at taken <;> cases taken
        rename_i call held member
        refine apart.of_keeps ?_ rfl (fun _ => Iff.rfl) ?_ ?_
        · rintro _ ⟨⟩
          exact apart.call call held
        · intro other member
          rcases State.mem_unsettled.mp member with ⟨_, ⟨⟩, before⟩ | ⟨stage, inside, looks⟩
          · exact State.mem_unsettled.mpr (.inl ⟨call, held, before⟩)
          · exact State.mem_unsettled.mpr (.inr ⟨stage, List.mem_of_mem_erase inside, looks⟩)
        · intro other waits
          exact Option.bind_eq_some_iff.mpr ⟨call, held, waits⟩
  | queueWork | takeWork =>
      simp only [step] at taken
      split at taken <;> cases taken
      exact ⟨apart.call, apart.settled, apart.latest, apart.queued⟩

/-- If every arming has the timer to itself, what expires was armed last. -/
theorem armsApart_timely (Thread : Type) [DecidableEq Thread] (delayed : Bool)
    (s : State Thread) : AlwaysTimely armsApart Thread delayed s := by
  intro run
  have guarded : s.Guarded := by
    refine run.keeps State.Guarded (fun _ _ _ _ taken => step_guarded taken) ?_
    constructor <;> simp [State.initial]
  have apart : s.Apart := by
    refine run.keeps State.Apart (fun _ _ _ allowed taken => step_apart allowed taken) ?_
    constructor <;> simp [State.initial, State.unsettled, State.queued]
  refine ⟨fun submission t taken active => ?_, fun submission t taken pending => ?_⟩
  · simp only [step] at taken
    split at taken
    · have looks : submission ∈ s.unsettled := State.mem_unsettled.mpr (.inr ⟨.entered, ‹_›, rfl⟩)
      rw [apart.latest submission looks]
      exact guarded.active active
    · cases taken
  · have ⟨timer, live⟩ := guarded.pending pending
    simp only [step] at taken
    split at taken
    · rename_i enabled
      have looks : submission ∈ s.unsettled :=
        State.mem_unsettled.mpr (.inr ⟨.expired, enabled.1, timer⟩)
      rw [apart.latest submission looks]
      exact live
    · cases taken

/-- An expiry that was dequeued before the timer was deleted fires the next arming. -/
theorem not_free_timely : ¬ ∀ (Thread : Type) [DecidableEq Thread] (delayed : Bool)
    (s : State Thread), AlwaysTimely Machine.free Thread delayed s := by
  intro timely
  have early := timely Unit false _ (Machine.reaches_of_play
    [.modTimer () true, .enterDelayed (), .dequeue, .delTimer (), .clearActive (),
      .modTimer () true, .enterDelayed (), .enterDispatch 0] rfl)
  exact absurd (early.fires 0 _ rfl rfl) (by decide)

end Timers

end AirportRtw88
