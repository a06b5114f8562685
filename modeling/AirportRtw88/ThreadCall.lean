import AirportRtw88.Interleave.Machine
import Mathlib.Data.List.Basic

/-!
# The thread call shim

`rtw88_thread_call.c` wraps the thread calls of the kernel.  The native call is a slot that
holds a submission until it is dequeued or cancelled; a dequeued submission enters
`rtw88_call_dispatch` later.  Every locked section of the shim is one step.
-/

namespace AirportRtw88

open Interleave

/-- The native call.  Submissions are numbered. -/
structure NativeCall where
  queued : Option Nat
  dequeued : List Nat
  submitted : Nat
  cancelled : List Nat
  deriving DecidableEq

namespace NativeCall

/-- `thread_call_enter` and `thread_call_enter_delayed`: a call that is queued stays queued. -/
def enter (native : NativeCall) : NativeCall :=
  { native with
    queued := some (native.queued.getD native.submitted)
    submitted := native.submitted + 1 }

/-- `thread_call_cancel` succeeds if the call is still queued. -/
def cancel (native : NativeCall) : NativeCall × Bool :=
  match native.queued with
  | none => (native, false)
  | some submission =>
      ({ native with queued := none, cancelled := submission :: native.cancelled }, true)

/-- The submissions that have not entered the trampoline. -/
def outstanding (call : NativeCall) : List Nat :=
  call.queued.toList ++ call.dequeued

end NativeCall

/-- `struct rtw88_call`. -/
structure Rtw88Call where
  native : NativeCall
  pending : Bool
  canceling : Bool
  running : Nat
  deriving DecidableEq

namespace Rtw88Call

/-- `rtw88_thread_call_allocate`. -/
def allocate : Rtw88Call :=
  ⟨⟨none, [], 0, []⟩, false, false, 0⟩

/-- Whether the shim hands a call to the kernel: at once, or in place of a queued one. -/
def submits (c : Rtw88Call) (delayed : Bool) : Bool :=
  !c.canceling && (!c.pending || (delayed && c.native.cancel.2))

/-- `rtw88_call_submit`. -/
def submit (c : Rtw88Call) (delayed : Bool) : Rtw88Call × Bool :=
  let already := c.pending || c.canceling
  let retimed := if !c.canceling && c.pending && delayed then c.native.cancel.1 else c.native
  if c.submits delayed then
    ({ c with native := retimed.enter, pending := true }, already)
  else
    ({ c with native := retimed }, already)

/-- `rtw88_thread_call_cancel`. -/
def cancel (c : Rtw88Call) : Rtw88Call × Bool :=
  let (native, canceled) := c.native.cancel
  ({ c with native, pending := c.pending && !canceled }, canceled)

/-- `rtw88_thread_call_cancel_wait` up to its loop. -/
def beginCancelWait (c : Rtw88Call) : Rtw88Call × Bool :=
  let (native, canceled) := c.native.cancel
  ({ c with native, canceling := true, pending := c.pending && !canceled }, canceled)

/-- The condition of the loop of `rtw88_thread_call_cancel_wait`. -/
def busy (c : Rtw88Call) : Bool :=
  c.pending || c.running ≠ 0

/-- The last write of `rtw88_thread_call_cancel_wait`. -/
def endCancelWait (c : Rtw88Call) : Rtw88Call :=
  { c with canceling := false }

/-- The kernel takes the call from its queue. -/
def dequeue (c : Rtw88Call) : Option Rtw88Call :=
  c.native.queued.map fun submission =>
    { c with
      native := { c.native with
        queued := none
        dequeued := submission :: c.native.dequeued } }

/-- The first section of `rtw88_call_dispatch`. -/
def enterDispatch (c : Rtw88Call) (submission : Nat) : Rtw88Call :=
  { c with
    native := { c.native with dequeued := c.native.dequeued.erase submission }
    pending := false
    running := c.running + 1 }

/-- The last section of `rtw88_call_dispatch`. -/
def leaveDispatch (c : Rtw88Call) : Rtw88Call :=
  { c with running := c.running - 1 }

end Rtw88Call

namespace ThreadCall

/-- Where a callback is in the trampoline: the function is about to be called, it is skipped,
or it was called. -/
inductive Stage where
  | calls
  | skips
  | called
  deriving DecidableEq

/-- A call of `rtw88_thread_call_cancel_wait` that sleeps, or was woken. -/
structure Waiter where
  canceled : Bool
  awake : Bool
  deriving DecidableEq

/-- The shim, the callbacks in its trampoline, and the threads that wait. -/
structure State (Thread : Type) where
  call : Rtw88Call
  inside : List (Nat × Stage)
  waiting : Thread → Option Waiter
  executed : List Nat
  suppressed : List Nat

/-- The steps of the callers, of the kernel and of the callbacks. -/
inductive Label (Thread : Type) where
  | enter
  | enterDelayed
  | cancel
  | cancelWait (thread : Thread)
  | recheck (thread : Thread)
  | dequeue
  | enterDispatch (submission : Nat)
  | callFunction (submission : Nat)
  | leaveDispatch (submission : Nat) (stage : Stage)

namespace State

variable {Thread : Type}

def initial : State Thread :=
  ⟨.allocate, [], fun _ => none, [], []⟩

/-- `IOLockWakeup(c->lock, c, false)`. -/
def wake (s : State Thread) : State Thread :=
  { s with
    waiting := fun thread => (s.waiting thread).map fun waiter => { waiter with awake := true } }

def withCall (s : State Thread) (call : Rtw88Call) : State Thread :=
  { s with call }

/-- The submissions that nothing is decided about yet. -/
def unsettled (s : State Thread) : List Nat :=
  s.call.native.outstanding ++ (s.inside.filter fun entry => entry.2 = .calls).map Prod.fst

variable [DecidableEq Thread]

def setWaiter (s : State Thread) (thread : Thread) (waiter : Option Waiter) : State Thread :=
  { s with waiting := Function.update s.waiting thread waiter }

/-- The loop of `rtw88_thread_call_cancel_wait`, once: sleep, or return. -/
def await (s : State Thread) (thread : Thread) (canceled : Bool) : State Thread :=
  if s.call.busy then s.setWaiter thread (some ⟨canceled, false⟩)
  else (s.withCall s.call.endCancelWait).setWaiter thread none

end State

variable {Thread : Type} [DecidableEq Thread]

def step : Label Thread → State Thread → Option (State Thread)
  | .enter, s => some (s.withCall (s.call.submit false).1)
  | .enterDelayed, s => some (s.withCall (s.call.submit true).1)
  | .cancel, s => some (s.withCall s.call.cancel.1).wake
  | .cancelWait thread, s =>
      if s.waiting thread = none then
        let (call, canceled) := s.call.beginCancelWait
        some ((s.withCall call).await thread canceled)
      else none
  | .recheck thread, s =>
      match s.waiting thread with
      | some ⟨canceled, true⟩ => some (s.await thread canceled)
      | _ => none
  | .dequeue, s => s.call.dequeue.map s.withCall
  | .enterDispatch submission, s =>
      if submission ∈ s.call.native.dequeued then
        let entered := s.withCall (s.call.enterDispatch submission)
        if s.call.canceling then
          some { entered with
            inside := (submission, .skips) :: s.inside
            suppressed := submission :: s.suppressed }
        else
          some { entered with inside := (submission, .calls) :: s.inside }
      else none
  | .callFunction submission, s =>
      if (submission, .calls) ∈ s.inside then
        some { s with
          inside := (submission, .called) :: s.inside.erase (submission, .calls)
          executed := submission :: s.executed }
      else none
  | .leaveDispatch submission stage, s =>
      if (submission, stage) ∈ s.inside ∧ stage ≠ .calls then
        some { s.withCall s.call.leaveDispatch with
          inside := s.inside.erase (submission, stage) }.wake
      else none

/-- The shim as a machine. -/
def machine : Machine (Label Thread) (State Thread) := ⟨step⟩

end ThreadCall

/-! ## The invariant of the shim -/

namespace Rtw88Call

variable {c : Rtw88Call}

/-- `pending` counts the submissions that have not entered the trampoline. -/
def Regular (c : Rtw88Call) : Prop :=
  c.native.outstanding.length = c.pending.toNat

/-- Every submission is counted once, here or in `elsewhere`. -/
def Accounts (c : Rtw88Call) (elsewhere : Nat → Nat) : Prop :=
  ∀ submission, elsewhere submission + c.native.cancelled.count submission +
    c.native.outstanding.count submission = if submission < c.native.submitted then 1 else 0

theorem cancel_native (call : NativeCall) :
    call.cancel.1.outstanding.length + call.cancel.2.toNat = call.outstanding.length ∧
      call.cancel.1.submitted = call.submitted ∧
      ∀ submission, call.cancel.1.cancelled.count submission +
        call.cancel.1.outstanding.count submission =
          call.cancelled.count submission + call.outstanding.count submission := by
  unfold NativeCall.cancel NativeCall.outstanding
  cases known : call.queued with
  | none => simp [known]
  | some queued =>
      refine ⟨by simp, rfl, fun submission => ?_⟩
      simp only [Option.toList_none, Option.toList_some, List.nil_append, List.singleton_append,
        List.count_cons]
      omega

/-- What the cancellations of the shim keep. -/
theorem Regular.cancel {c' : Rtw88Call} (regular : c.Regular)
    (native : c'.native = c.native.cancel.1)
    (pending : c'.pending = (c.pending && !c.native.cancel.2)) : c'.Regular := by
  have lengths := (cancel_native c.native).1
  unfold Regular at *
  rw [native, pending]
  cases was : c.pending <;> cases canceled : c.native.cancel.2 <;> simp_all

theorem Accounts.cancel {c' : Rtw88Call} {elsewhere : Nat → Nat} (accounts : c.Accounts elsewhere)
    (native : c'.native = c.native.cancel.1) : c'.Accounts elsewhere := by
  obtain ⟨-, submitted, counts⟩ := cancel_native c.native
  intro submission
  rw [native, submitted, ← accounts submission, Nat.add_assoc, counts, Nat.add_assoc]

/-- A call is handed to the kernel only if none is outstanding there. -/
theorem outstanding_of_submits {delayed : Bool} (regular : c.Regular)
    (submits : c.submits delayed = true) :
    (if !c.canceling && c.pending && delayed then c.native.cancel.1 else c.native).outstanding
      = [] := by
  have lengths := (cancel_native c.native).1
  unfold Regular at regular
  unfold Rtw88Call.submits at submits
  apply List.eq_nil_of_length_eq_zero
  cases pending : c.pending <;> cases delayed <;> simp_all

theorem enter_native {native : NativeCall} (free : native.outstanding = []) :
    native.enter.outstanding = [native.submitted] := by
  unfold NativeCall.outstanding at *
  obtain ⟨queued, dequeued⟩ := List.append_eq_nil_iff.mp free
  simp [NativeCall.enter, dequeued, Option.toList_eq_nil_iff.mp queued]

@[simp]
theorem running_submit (delayed : Bool) : (c.submit delayed).1.running = c.running := by
  unfold submit
  dsimp only
  split <;> rfl

@[simp]
theorem canceling_submit (delayed : Bool) : (c.submit delayed).1.canceling = c.canceling := by
  unfold submit
  dsimp only
  split <;> rfl

theorem Regular.submit (regular : c.Regular) (delayed : Bool) : (c.submit delayed).1.Regular := by
  unfold Rtw88Call.submit
  dsimp only
  split
  · rename_i submits
    have free := outstanding_of_submits regular submits
    exact congrArg List.length (enter_native free)
  · rename_i refused
    unfold Regular at *
    split
    · have lengths := (cancel_native c.native).1
      simp_all [submits]
    · exact regular

theorem Accounts.submit {elsewhere : Nat → Nat} (accounts : c.Accounts elsewhere)
    (regular : c.Regular) (delayed : Bool) :
    (c.submit delayed).1.Accounts elsewhere := by
  have retimed : ∀ retimed : NativeCall,
      (if !c.canceling && c.pending && delayed then c.native.cancel.1 else c.native) = retimed →
      Accounts { c with native := retimed } elsewhere := by
    rintro _ rfl
    split
    · exact accounts.cancel rfl
    · exact accounts
  unfold Rtw88Call.submit
  dsimp only
  split
  · rename_i submits
    have free := outstanding_of_submits regular submits
    have accounts := retimed _ rfl
    generalize (if !c.canceling && c.pending && delayed then c.native.cancel.1 else c.native) =
      native at free accounts
    intro submission
    have counted := accounts submission
    simp only [free, List.count_nil, Nat.add_zero] at counted
    simp only [enter_native free, List.count_singleton]
    simp only [NativeCall.enter]
    grind
  · exact retimed _ rfl

/-- A submission that is dequeued is the only one outstanding. -/
theorem Regular.dequeued {submission : Nat} (regular : c.Regular)
    (dequeued : submission ∈ c.native.dequeued) :
    c.native.queued = none ∧ c.native.dequeued = [submission] ∧ c.pending = true := by
  unfold Regular NativeCall.outstanding at regular
  have present := List.length_pos_of_mem dequeued
  have bound := Bool.toNat_le c.pending
  rw [List.length_append] at regular
  have single : c.native.dequeued.length = 1 := by omega
  obtain ⟨only, is⟩ := List.length_eq_one_iff.mp single
  rw [is] at dequeued
  cases List.mem_singleton.mp dequeued
  refine ⟨?_, is, ?_⟩
  · exact Option.toList_eq_nil_iff.mp (List.eq_nil_of_length_eq_zero (by omega))
  · cases was : c.pending
    · simp [was] at regular
      simp [regular.2] at present
    · rfl

theorem Regular.dequeue {c' : Rtw88Call} (regular : c.Regular) (taken : c.dequeue = some c') :
    c'.Regular ∧ ∀ elsewhere, c.Accounts elsewhere → c'.Accounts elsewhere := by
  obtain ⟨submission, queued, rfl⟩ := Option.map_eq_some_iff.mp taken
  have same : c.native.outstanding = submission :: c.native.dequeued := by
    simp [NativeCall.outstanding, queued]
  refine ⟨?_, fun elsewhere accounts submission' => ?_⟩
  · unfold Regular at regular
    rw [same] at regular
    exact regular
  · have counted := accounts submission'
    rw [same] at counted
    exact counted

/-- Nothing is outstanding once a submission has entered the trampoline. -/
theorem outstanding_enterDispatch {submission : Nat} (regular : c.Regular)
    (dequeued : submission ∈ c.native.dequeued) :
    (c.enterDispatch submission).native.outstanding = [] := by
  obtain ⟨empty, only, -⟩ := regular.dequeued dequeued
  simp [enterDispatch, NativeCall.outstanding, empty, only]

theorem Regular.enterDispatch {submission : Nat} (regular : c.Regular)
    (dequeued : submission ∈ c.native.dequeued) : (c.enterDispatch submission).Regular :=
  congrArg List.length (outstanding_enterDispatch regular dequeued)

end Rtw88Call

namespace ThreadCall

variable {Thread : Type}

namespace State

/-- How often a submission was executed or suppressed, or is about to be executed. -/
def handled (s : State Thread) (submission : Nat) : Nat :=
  s.executed.count submission + s.suppressed.count submission +
    ((s.inside.filter fun entry => entry.2 = .calls).map Prod.fst).count submission

/-- How often a submission is about to be executed, if an entry of the trampoline is set apart. -/
theorem count_calls {inside : List (Nat × Stage)} {entry : Nat × Stage} (member : entry ∈ inside)
    (submission : Nat) :
    ((inside.filter fun entry => entry.2 = .calls).map Prod.fst).count submission =
      (if entry.2 = .calls ∧ entry.1 = submission then 1 else 0) +
        (((inside.erase entry).filter fun entry => entry.2 = .calls).map Prod.fst).count
          submission := by
  have split := (((List.perm_cons_erase member).filter fun entry => entry.2 = .calls).map
    Prod.fst).count_eq submission
  rw [split, List.filter_cons]
  by_cases calls : entry.2 = .calls
  · simp [calls, List.count_cons, Nat.add_comm]
  · simp [calls]

/-- The flags of the shim say what its callbacks do. -/
structure Regular (s : State Thread) : Prop where
  pending : s.call.Regular
  running : s.call.running = s.inside.length
  settled : s.call.Accounts s.handled

/-- A step that only replaces the call. -/
theorem Regular.withCall {s t : State Thread} (regular : s.Regular) (pending : t.call.Regular)
    (settled : t.call.Accounts s.handled)
    (same : (t.call.running, t.inside, t.executed, t.suppressed) =
      (s.call.running, s.inside, s.executed, s.suppressed)) : t.Regular := by
  simp only [Prod.mk.injEq] at same
  obtain ⟨running, inside, executed, suppressed⟩ := same
  refine ⟨pending, by rw [running, inside, regular.running], ?_⟩
  have handled : t.handled = s.handled := by
    funext submission
    simp only [State.handled, inside, executed, suppressed]
  rwa [handled]

theorem Regular.await [DecidableEq Thread] {s : State Thread} (regular : s.Regular)
    (thread : Thread) (canceled : Bool) : (s.await thread canceled).Regular := by
  unfold State.await
  split
  · exact regular.withCall regular.pending regular.settled rfl
  · exact regular.withCall regular.pending regular.settled rfl

end State

variable [DecidableEq Thread]

theorem step_regular {label : Label Thread} {s t : State Thread}
    (taken : step label s = some t) (regular : s.Regular) : t.Regular := by
  have pending := regular.pending
  have settled := regular.settled
  cases label with
  | enter =>
      cases taken
      exact regular.withCall (pending.submit false) (settled.submit pending false)
        (by simp [State.withCall])
  | enterDelayed =>
      cases taken
      exact regular.withCall (pending.submit true) (settled.submit pending true)
        (by simp [State.withCall])
  | cancel =>
      cases taken
      exact regular.withCall (pending.cancel rfl rfl) (settled.cancel rfl) rfl
  | cancelWait thread =>
      simp only [step] at taken
      split at taken
      · cases taken
        have began : (s.withCall s.call.beginCancelWait.1).Regular :=
          regular.withCall (pending.cancel rfl rfl) (settled.cancel rfl) rfl
        exact began.await thread _
      · cases taken
  | recheck thread =>
      simp only [step] at taken
      split at taken
      · cases taken
        exact regular.await thread _
      · cases taken
  | dequeue =>
      obtain ⟨call, dequeued, rfl⟩ := Option.map_eq_some_iff.mp taken
      obtain ⟨pending, accounts⟩ := pending.dequeue dequeued
      have running : call.running = s.call.running := by
        obtain ⟨_, -, rfl⟩ := Option.map_eq_some_iff.mp dequeued
        rfl
      exact regular.withCall pending (accounts _ settled) (by simp [State.withCall, running])
  | enterDispatch submission =>
      simp only [step] at taken
      split at taken
      · rename_i dequeued
        obtain ⟨empty, only, -⟩ := pending.dequeued dequeued
        have free := Rtw88Call.outstanding_enterDispatch pending dequeued
        have counted : ∀ n, s.handled n + s.call.native.cancelled.count n +
            [submission].count n = if n < s.call.native.submitted then 1 else 0 := by
          intro n
          simpa [NativeCall.outstanding, empty, only] using settled n
        split at taken
        · cases taken
          refine ⟨pending.enterDispatch dequeued, congrArg (· + 1) regular.running, fun n => ?_⟩
          refine Eq.trans ?_ (counted n)
          simp only [State.withCall, free]
          simp [State.handled, Rtw88Call.enterDispatch, List.count_cons]
          omega
        · cases taken
          refine ⟨pending.enterDispatch dequeued, congrArg (· + 1) regular.running, fun n => ?_⟩
          refine Eq.trans ?_ (counted n)
          simp only [State.withCall, free]
          simp [State.handled, Rtw88Call.enterDispatch, List.count_cons]
          omega
      · cases taken
  | callFunction submission =>
      simp only [step] at taken
      split at taken
      · rename_i entered
        cases taken
        refine ⟨pending, ?_, fun n => Eq.trans ?_ (settled n)⟩
        · rw [regular.running, List.length_cons, List.length_erase_of_mem entered,
            Nat.sub_add_cancel (List.length_pos_of_mem entered)]
        · simp only [State.handled, State.count_calls entered n]
          simp [List.count_cons]
          omega
      · cases taken
  | leaveDispatch submission stage =>
      simp only [step] at taken
      split at taken
      · rename_i entered
        cases taken
        refine ⟨pending, ?_, fun n => Eq.trans ?_ (settled n)⟩
        · simp only [State.wake, State.withCall, Rtw88Call.leaveDispatch, regular.running,
            List.length_erase_of_mem entered.1]
        · simp only [State.handled, State.count_calls entered.1 n]
          simp [entered.2, State.wake, State.withCall, Rtw88Call.leaveDispatch]
      · cases taken

theorem reaches_regular {allows : Label Thread → State Thread → Prop} {s : State Thread}
    (run : machine.Reaches allows .initial s) : s.Regular :=
  run.keeps State.Regular (fun _ _ _ _ taken regular => step_regular taken regular)
    ⟨rfl, rfl, fun _ => rfl⟩

/-! ## Synchronous cancellation -/

/-- A submission that will be suppressed if it ever enters the trampoline. -/
structure Doomed (submission : Nat) (c : Rtw88Call) : Prop where
  known : submission < c.native.submitted
  notQueued : c.native.queued ≠ some submission
  canceling : submission ∈ c.native.dequeued → c.canceling = true

theorem queued_cancel (native : NativeCall) :
    native.cancel.1.queued = none ∧ native.cancel.1.dequeued = native.dequeued := by
  unfold NativeCall.cancel
  cases queued : native.queued <;> simp [queued]

/-- What the submissions and the cancellations keep. -/
theorem Doomed.of_native {submission : Nat} {c c' : Rtw88Call} (doomed : Doomed submission c)
    (native : c'.native = c.native ∨ c'.native = c.native.cancel.1)
    (canceling : c.canceling = true → c'.canceling = true) : Doomed submission c' := by
  obtain ⟨cleared, dequeued⟩ := queued_cancel c.native
  have submitted := (Rtw88Call.cancel_native c.native).2.1
  rcases native with native | native
  · exact ⟨native ▸ doomed.known, native ▸ doomed.notQueued,
      fun waits => canceling (doomed.canceling (native ▸ waits))⟩
  · refine ⟨?_, by simp [native, cleared], fun waits => canceling (doomed.canceling ?_)⟩
    · rw [native, submitted]
      exact doomed.known
    · rwa [native, dequeued] at waits

theorem Doomed.enter {submission : Nat} {c c' : Rtw88Call} (doomed : Doomed submission c)
    (native : c'.native = c.native.enter) (canceling : c'.canceling = c.canceling) :
    Doomed submission c' := by
  refine ⟨?_, ?_, fun waits => canceling ▸ doomed.canceling ?_⟩
  · rw [native]
    exact Nat.lt_succ_of_lt doomed.known
  · have known := doomed.known
    have notQueued := doomed.notQueued
    rw [native]
    simp only [NativeCall.enter, ne_eq, Option.some.injEq]
    cases queued : c.native.queued with
    | none => exact Nat.ne_of_gt known
    | some other => exact fun same => notQueued (queued.trans (congrArg some same))
  · rwa [native] at waits

theorem Doomed.submit {submission : Nat} {c : Rtw88Call} (doomed : Doomed submission c)
    (delayed : Bool) : Doomed submission (c.submit delayed).1 := by
  have retimed : ∀ native, native = (if !c.canceling && c.pending && delayed
      then c.native.cancel.1 else c.native) → Doomed submission { c with native } := by
    rintro _ rfl
    split
    · exact doomed.of_native (.inr rfl) id
    · exact doomed.of_native (.inl rfl) id
  unfold Rtw88Call.submit
  dsimp only
  split
  · exact (retimed _ rfl).enter rfl rfl
  · exact retimed _ rfl

/-- The function will not be called for a submission. -/
structure State.Spared (submission : Nat) (s : State Thread) : Prop where
  doomed : Doomed submission s.call
  notCalled : (submission, .calls) ∉ s.inside
  notExecuted : submission ∉ s.executed

/-- A cancellation only ends its wait when nothing is outstanding. -/
theorem State.Spared.await {submission : Nat} {s : State Thread} (spared : s.Spared submission)
    (regular : s.Regular) (thread : Thread) (canceled : Bool) :
    (s.await thread canceled).Spared submission := by
  unfold State.await
  split
  · exact ⟨spared.doomed, spared.notCalled, spared.notExecuted⟩
  · rename_i idle
    refine ⟨⟨spared.doomed.known, spared.doomed.notQueued, fun dequeued => ?_⟩,
      spared.notCalled, spared.notExecuted⟩
    have pending := (regular.pending.dequeued dequeued).2.2
    simp [Rtw88Call.busy, pending] at idle

theorem step_spared {submission : Nat} {label : Label Thread} {s t : State Thread}
    (taken : step label s = some t) (regular : s.Regular) (spared : s.Spared submission) :
    t.Spared submission := by
  obtain ⟨doomed, notCalled, notExecuted⟩ := spared
  cases label with
  | enter =>
      cases taken
      exact ⟨doomed.submit false, notCalled, notExecuted⟩
  | enterDelayed =>
      cases taken
      exact ⟨doomed.submit true, notCalled, notExecuted⟩
  | cancel =>
      cases taken
      exact ⟨doomed.of_native (.inr rfl) id, notCalled, notExecuted⟩
  | cancelWait thread =>
      simp only [step] at taken
      split at taken
      · cases taken
        have began : (s.withCall s.call.beginCancelWait.1).Regular :=
          regular.withCall (regular.pending.cancel rfl rfl) (regular.settled.cancel rfl) rfl
        have spared : (s.withCall s.call.beginCancelWait.1).Spared submission :=
          ⟨doomed.of_native (.inr rfl) fun _ => rfl, notCalled, notExecuted⟩
        exact spared.await began thread _
      · cases taken
  | recheck thread =>
      simp only [step] at taken
      split at taken
      · cases taken
        exact State.Spared.await ⟨doomed, notCalled, notExecuted⟩ regular thread _
      · cases taken
  | dequeue =>
      obtain ⟨call, dequeued, rfl⟩ := Option.map_eq_some_iff.mp taken
      obtain ⟨other, queued, rfl⟩ := Option.map_eq_some_iff.mp dequeued
      refine ⟨⟨doomed.known, nofun, fun waits => doomed.canceling ?_⟩, notCalled, notExecuted⟩
      refine (List.mem_cons.mp waits).resolve_left fun same => ?_
      exact doomed.notQueued (queued.trans (congrArg some same.symm))
  | enterDispatch other =>
      simp only [step] at taken
      split at taken
      · rename_i dequeued
        have entered : Doomed submission (s.call.enterDispatch other) :=
          ⟨doomed.known, doomed.notQueued,
            fun waits => doomed.canceling (List.mem_of_mem_erase waits)⟩
        split at taken
        · cases taken
          refine ⟨entered, ?_, notExecuted⟩
          simpa using notCalled
        · rename_i notCanceling
          cases taken
          refine ⟨entered, ?_, notExecuted⟩
          have other : submission ≠ other := by
            rintro rfl
            exact notCanceling (doomed.canceling dequeued)
          simpa [other] using notCalled
      · cases taken
  | callFunction other =>
      simp only [step] at taken
      split at taken
      · rename_i calls
        cases taken
        have other : submission ≠ other := by
          rintro rfl
          exact notCalled calls
        refine ⟨doomed, ?_, by simpa [other] using notExecuted⟩
        simpa using fun waits => notCalled (List.mem_of_mem_erase waits)
      · cases taken
  | leaveDispatch other stage =>
      simp only [step] at taken
      split at taken
      · cases taken
        exact ⟨⟨doomed.known, doomed.notQueued, doomed.canceling⟩,
          fun waits => notCalled (List.mem_of_mem_erase waits), notExecuted⟩
      · cases taken

/-- What is outstanding when a cancellation starts is spared. -/
theorem spared_of_cancelWait {submission : Nat} {thread : Thread} {s t : State Thread}
    (regular : s.Regular) (outstanding : submission ∈ s.call.native.outstanding)
    (taken : step (.cancelWait thread) s = some t) : t.Spared submission := by
  have counted := regular.settled submission
  have once := List.count_pos_iff.mpr outstanding
  have known : submission < s.call.native.submitted := by
    by_contra unknown
    rw [if_neg unknown] at counted
    omega
  rw [if_pos known, State.handled] at counted
  have notExecuted : submission ∉ s.executed := List.count_eq_zero.mp (by omega)
  have notCalled : (submission, Stage.calls) ∉ s.inside := by
    intro calls
    have := State.count_calls calls submission
    simp only [and_self, if_true] at this
    omega
  have pending := regular.pending
  have cleared : s.call.beginCancelWait.1.native.queued = none := (queued_cancel _).1
  simp only [step] at taken
  split at taken
  · cases taken
    have began : (s.withCall s.call.beginCancelWait.1).Regular :=
      regular.withCall (pending.cancel rfl rfl) (regular.settled.cancel rfl) rfl
    have submitted := (Rtw88Call.cancel_native s.call.native).2.1
    have doomed : Doomed submission s.call.beginCancelWait.1 :=
      ⟨submitted.symm ▸ known, by simp [cleared], fun _ => rfl⟩
    have spared : (s.withCall s.call.beginCancelWait.1).Spared submission :=
      ⟨doomed, notCalled, notExecuted⟩
    exact spared.await began thread _
  · cases taken

/-- The cancellation returns in this step. -/
def Returns (thread : Thread) (label : Label Thread) (after : State Thread) : Prop :=
  (label = .cancelWait thread ∨ label = .recheck thread) ∧ after.waiting thread = none

theorem idle_of_await {thread : Thread} {canceled : Bool} {s : State Thread}
    (returned : (s.await thread canceled).waiting thread = none) :
    (s.await thread canceled).call.busy = false := by
  unfold State.await at *
  split at returned
  · simp [State.setWaiter] at returned
  · rename_i idle
    rw [if_neg idle]
    have idle : s.call.busy = false := by simpa using idle
    exact idle

theorem idle_of_returns {thread : Thread} {label : Label Thread} {s t : State Thread}
    (taken : step label s = some t) (returns : Returns thread label t) : t.call.busy = false := by
  obtain ⟨rfl | rfl, returned⟩ := returns
  · simp only [step] at taken
    split at taken
    · cases taken
      exact idle_of_await returned
    · cases taken
  · simp only [step] at taken
    split at taken
    · cases taken
      exact idle_of_await returned
    · cases taken

/-- What the shim promises in a state. -/
structure Protocol (s : State Thread) : Prop where
  /-- `pending` means that exactly one submission has not entered, and there are never two. -/
  pending : s.call.native.outstanding.length ≤ 1 ∧
    (s.call.pending = true ↔ s.call.native.outstanding.length = 1)
  /-- `running` counts the callbacks in the trampoline. -/
  running : s.call.running = s.inside.length
  /-- A submission was executed, suppressed or cancelled once, unless that is still open. -/
  settled : ∀ submission, s.executed.count submission + s.suppressed.count submission +
    s.call.native.cancelled.count submission + s.unsettled.count submission =
      if submission < s.call.native.submitted then 1 else 0
  /-- What is outstanding when a cancellation starts is never executed. -/
  spares : ∀ thread t later submission, step (.cancelWait thread) s = some t →
    machine.Reaches Machine.free t later → submission ∈ s.call.native.outstanding →
      submission ∉ later.executed
  /-- When a cancellation returns, nothing is outstanding and nothing is in the trampoline. -/
  returns : ∀ label thread t, step label s = some t → Returns thread label t →
    t.call.pending = false ∧ t.call.running = 0 ∧ t.call.native.outstanding = [] ∧ t.inside = []

/-- The shim keeps its promises in every run of any number of threads. -/
def KeepsProtocol : Prop :=
  ∀ (Thread : Type) [DecidableEq Thread] (s : State Thread),
    machine.Reaches Machine.free .initial s → Protocol s

theorem keepsProtocol : KeepsProtocol := by
  intro Thread _ s run
  have regular := reaches_regular run
  refine ⟨?_, regular.running, fun submission => ?_, ?_, ?_⟩
  · have lengths : s.call.native.outstanding.length = s.call.pending.toNat := regular.pending
    cases was : s.call.pending <;> simp [lengths, was]
  · have counted := regular.settled submission
    rw [← counted, State.unsettled, List.count_append, State.handled]
    omega
  · intro thread t later submission taken goesOn outstanding
    have started : t.Regular ∧ t.Spared submission :=
      ⟨step_regular taken regular, spared_of_cancelWait regular outstanding taken⟩
    refine (goesOn.keeps (fun s => s.Regular ∧ s.Spared submission) ?_ started).2.notExecuted
    exact fun _ _ _ _ taken held => ⟨step_regular taken held.1, step_spared taken held.1 held.2⟩
  · intro label thread t taken returns
    have idle := idle_of_returns taken returns
    have regular := step_regular taken regular
    simp only [Rtw88Call.busy, Bool.or_eq_false_iff, decide_eq_false_iff_not, not_not] at idle
    have lengths : t.call.native.outstanding.length = t.call.pending.toNat := regular.pending
    refine ⟨idle.1, idle.2, List.eq_nil_of_length_eq_zero ?_, List.eq_nil_of_length_eq_zero ?_⟩
    · rw [lengths, idle.1]
      rfl
    · rw [← regular.running, idle.2]

end ThreadCall

end AirportRtw88
