import AirportRtw88.ThreadCall

/-!
# The polls of a NAPI context

`rtw88_napi_schedule` starts a thread call whose callback polls.  The shim coalesces a call only
until it enters the trampoline, so a call that is made later starts another callback.
-/

namespace AirportRtw88

open Interleave

/-- `struct napi_struct`; `poll` says whether the function is set. -/
structure NapiStruct where
  poll : Bool
  weight : Nat
  threadCall : Option Rtw88Call

namespace Napi

/-- Where a callback is: in the trampoline before `rtw88_napi_thread_wrapper`, in the poll, after
a poll with this result, or at the end of the wrapper. -/
inductive Stage where
  | entered
  | polling
  | polled (work : Nat)
  | done
  deriving DecidableEq

/-- A call of `rtw88_napi_schedule`: how many polls had started before, and whether it has
entered the thread call. -/
structure Schedule where
  before : Nat
  submitted : Bool
  deriving DecidableEq

structure State (Thread : Type) where
  napi : NapiStruct
  inside : List (Nat × Stage)
  polls : Nat
  scheduling : Thread → Option Schedule

/-- The steps of the callers, of the kernel and of the callbacks. -/
inductive Label (Thread : Type) where
  | beginSchedule (thread : Thread)
  | enterThreadCall (thread : Thread)
  | endSchedule (thread : Thread)
  | dequeue
  | enterDispatch (submission : Nat)
  | callPoll (submission : Nat)
  | returnPoll (submission work : Nat)
  | endWrapper (submission work : Nat)
  | leaveDispatch (submission : Nat)

/-- The callback will not poll again, nor start another one that does. -/
def Stage.over (weight : Nat) : Stage → Bool
  | .polled work => work < weight
  | .done => true
  | _ => false

@[simp]
theorem Stage.over_entered (weight : Nat) : entered.over weight = false := rfl

@[simp]
theorem Stage.over_done (weight : Nat) : done.over weight = true := rfl

namespace State

variable {Thread : Type}

/-- After `rtw88_netif_napi_add`, which may have failed to allocate the thread call. -/
def added (allocated : Bool) : State Thread :=
  ⟨⟨true, 64, if allocated then some .allocate else none⟩, [], 0, fun _ => none⟩

def registered (s : State Thread) : Bool :=
  s.napi.poll && s.napi.threadCall.isSome

/-- `thread_call_enter` on the thread call of the context, if there is one. -/
def submit (s : State Thread) : State Thread :=
  { s with napi := { s.napi with threadCall := s.napi.threadCall.map fun c => (c.submit false).1 } }

def withCall (s : State Thread) (call : Rtw88Call) : State Thread :=
  { s with napi := { s.napi with threadCall := some call } }

/-- A callback goes on to another stage. -/
def move (s : State Thread) (submission : Nat) (before after : Stage) : State Thread :=
  { s with inside := (submission, after) :: s.inside.erase (submission, before) }

/-- The submissions that have not entered the trampoline. -/
def outstanding (s : State Thread) : List Nat :=
  s.napi.threadCall.elim [] fun c => c.native.outstanding

/-- The callbacks that may still poll, or start another one. -/
def unfinished (s : State Thread) : List (Nat × Stage) :=
  s.inside.filter fun entry => !entry.2.over s.napi.weight

/-- The callbacks in the poll. -/
def polling (s : State Thread) : List (Nat × Stage) :=
  s.inside.filter fun entry => entry.2 = .polling

/-- There is a callback that has not entered the poll. -/
def awaitsPoll (s : State Thread) : Prop :=
  s.outstanding ≠ [] ∨ ∃ submission, (submission, Stage.entered) ∈ s.inside

/-- The thread call is regular, and nobody cancels it. -/
def Regular (s : State Thread) : Prop :=
  ∀ call, s.napi.threadCall = some call → call.Regular ∧ call.canceling = false

theorem Regular.submit {s : State Thread} (regular : s.Regular) : s.submit.Regular := by
  intro call found
  obtain ⟨before, present, rfl⟩ := Option.map_eq_some_iff.mp found
  obtain ⟨regular, calm⟩ := regular before present
  exact ⟨regular.submit false, by simpa using calm⟩

theorem Regular.withCall {s : State Thread} {call : Rtw88Call} (regular : call.Regular)
    (calm : call.canceling = false) : (s.withCall call).Regular := by
  rintro _ ⟨⟩
  exact ⟨regular, calm⟩

/-- At most one callback may still poll. -/
def Single (s : State Thread) : Prop :=
  s.outstanding.length + s.unfinished.length ≤ 1

theorem Regular.length_outstanding {s : State Thread} (regular : s.Regular) :
    s.outstanding.length ≤ 1 := by
  unfold outstanding
  cases present : s.napi.threadCall with
  | none => exact Nat.zero_le 1
  | some call =>
      have lengths : call.native.outstanding.length = call.pending.toNat := (regular call present).1
      exact lengths ▸ Bool.toNat_le call.pending

/-- A call is coalesced, or it is the only one. -/
theorem Single.submit {s : State Thread} (regular : s.Regular) (none : s.unfinished = []) :
    s.submit.Single := by
  have bound := regular.submit.length_outstanding
  have none : s.submit.unfinished = [] := none
  simpa [Single, none] using bound

theorem length_filter_erase {inside : List (Nat × Stage)} {entry : Nat × Stage}
    (member : entry ∈ inside) (counts : Nat × Stage → Bool) :
    (inside.filter counts).length =
      (counts entry).toNat + ((inside.erase entry).filter counts).length := by
  have split := ((List.perm_cons_erase member).filter counts).length_eq
  rw [split, List.filter_cons]
  cases counts entry <;> simp [Nat.add_comm]

/-- A callback that moves on stays the only one. -/
theorem Single.move {s : State Thread} {submission : Nat} {before after : Stage}
    (single : s.Single) (member : (submission, before) ∈ s.inside)
    (goesOn : before.over s.napi.weight = true → after.over s.napi.weight = true) :
    (s.move submission before after).Single := by
  unfold Single unfinished at *
  rw [length_filter_erase member] at single
  simp only [State.move, List.filter_cons]
  cases was : before.over s.napi.weight <;> cases is : after.over s.napi.weight <;>
    simp_all [State.outstanding] <;> omega

/-- When the only callback is over, none is left. -/
theorem Single.unfinished_move {s : State Thread} {submission : Nat} {before after : Stage}
    (single : s.Single) (member : (submission, before) ∈ s.inside)
    (polls : before.over s.napi.weight = false) (ends : after.over s.napi.weight = true) :
    (s.move submission before after).unfinished = [] := by
  unfold Single unfinished at single
  rw [length_filter_erase member] at single
  simp only [polls, Bool.not_false, Bool.toNat_true] at single
  have rest := List.eq_nil_of_length_eq_zero (show ((s.inside.erase (submission, before)).filter
    fun entry => !entry.2.over s.napi.weight).length = 0 by omega)
  simpa [unfinished, State.move, ends] using rest

/-- What a call asked for is still to come, or has started since. -/
def Served (s : State Thread) (before : Nat) : Prop :=
  s.awaitsPoll ∨ before < s.polls

theorem Served.move {s : State Thread} {before : Nat} {submission : Nat}
    {from' to' : Stage} (served : s.Served before) (other : from' ≠ .entered) :
    (s.move submission from' to').Served before := by
  refine served.imp (fun awaits => awaits.imp id ?_) id
  rintro ⟨waiting, entered⟩
  refine ⟨waiting, List.mem_cons_of_mem _ ((List.mem_erase_of_ne ?_).mpr entered)⟩
  exact fun same => other (congrArg Prod.snd same).symm

/-- A call that is entered is outstanding. -/
theorem outstanding_submit {call : Rtw88Call} (regular : call.Regular)
    (calm : call.canceling = false) : (call.submit false).1.native.outstanding ≠ [] := by
  have lengths : (call.submit false).1.native.outstanding.length =
      (call.submit false).1.pending.toNat := regular.submit false
  have pending : (call.submit false).1.pending = true := by
    cases was : call.pending <;> simp [Rtw88Call.submit, Rtw88Call.submits, calm, was]
  rw [pending] at lengths
  exact List.ne_nil_of_length_pos (by simp [lengths])

theorem Served.submit {s : State Thread} {before : Nat} (regular : s.Regular)
    (served : s.Served before) : s.submit.Served before := by
  refine served.imp (fun awaits => awaits.imp (fun outstanding => ?_) id) id
  cases present : s.napi.threadCall with
  | none => simp [State.outstanding, present] at outstanding
  | some call =>
      have still := outstanding_submit (regular call present).1 (regular call present).2
      simpa [State.outstanding, State.submit, present] using still

variable [DecidableEq Thread]

def setSchedule (s : State Thread) (thread : Thread) (schedule : Option Schedule) : State Thread :=
  { s with scheduling := Function.update s.scheduling thread schedule }

end State

variable {Thread : Type} [DecidableEq Thread]

def step : Label Thread → State Thread → Option (State Thread)
  | .beginSchedule thread, s =>
      if s.scheduling thread = none then some (s.setSchedule thread (some ⟨s.polls, false⟩))
      else none
  | .enterThreadCall thread, s =>
      match s.scheduling thread with
      | some ⟨before, false⟩ =>
          let entered := if s.registered then s.submit else s
          some (entered.setSchedule thread (some ⟨before, true⟩))
      | _ => none
  | .endSchedule thread, s =>
      match s.scheduling thread with
      | some ⟨_, true⟩ => some (s.setSchedule thread none)
      | _ => none
  | .dequeue, s => (s.napi.threadCall.bind Rtw88Call.dequeue).map s.withCall
  | .enterDispatch submission, s =>
      match s.napi.threadCall with
      | none => none
      | some call =>
          if submission ∈ call.native.dequeued then
            some { s.withCall (call.enterDispatch submission) with
              inside := (submission, if call.canceling then .done else .entered) :: s.inside }
          else none
  | .callPoll submission, s =>
      if (submission, .entered) ∈ s.inside then
        if s.napi.poll then
          some { s.move submission .entered .polling with polls := s.polls + 1 }
        else some (s.move submission .entered .done)
      else none
  | .returnPoll submission work, s =>
      if (submission, .polling) ∈ s.inside then
        some (s.move submission .polling (.polled work))
      else none
  | .endWrapper submission work, s =>
      if (submission, .polled work) ∈ s.inside then
        let finished := s.move submission (.polled work) .done
        some (if s.napi.weight ≤ work then finished.submit else finished)
      else none
  | .leaveDispatch submission, s =>
      if (submission, .done) ∈ s.inside then
        let left := { s with inside := s.inside.erase (submission, .done) }
        some (s.napi.threadCall.elim left fun call => left.withCall call.leaveDispatch)
      else none

/-- The context and its callers as a machine. -/
def machine : Machine (Label Thread) (State Thread) := ⟨step⟩

/-- `rtw88_napi_schedule` enters the thread call only when no callback in the trampoline may
still poll or start another one. -/
def schedulesApart : Label Thread → State Thread → Prop
  | .enterThreadCall _, s => s.unfinished = []
  | _, _ => True

/-- At most one callback polls, and what a call of `rtw88_napi_schedule` asked for is still to
come or has started since. -/
structure Serves (s : State Thread) : Prop where
  single : s.polling.length ≤ 1
  served : ∀ thread schedule, s.scheduling thread = some schedule → schedule.submitted = true →
    s.registered = true → s.Served schedule.before

/-- The context serves its callers in every run of allowed steps. -/
def AlwaysServes (allows : ∀ {Thread : Type}, Label Thread → State Thread → Prop)
    (Thread : Type) [DecidableEq Thread] (allocated : Bool) (s : State Thread) : Prop :=
  machine.Reaches allows (.added allocated) s → Serves s

theorem step_regular {label : Label Thread} {s t : State Thread} (taken : step label s = some t)
    (regular : s.Regular) : t.Regular := by
  cases label with
  | beginSchedule thread =>
      simp only [step] at taken
      split at taken
      · cases taken
        exact regular
      · cases taken
  | enterThreadCall thread =>
      simp only [step] at taken
      split at taken
      · cases taken
        split
        · exact regular.submit
        · exact regular
      · cases taken
  | endSchedule thread =>
      simp only [step] at taken
      split at taken
      · cases taken
        exact regular
      · cases taken
  | dequeue =>
      obtain ⟨call, dequeued, rfl⟩ := Option.map_eq_some_iff.mp taken
      obtain ⟨before, present, dequeued⟩ := Option.bind_eq_some_iff.mp dequeued
      obtain ⟨regular, calm⟩ := regular before present
      refine .withCall (regular.dequeue dequeued).1 ?_
      obtain ⟨_, -, rfl⟩ := Option.map_eq_some_iff.mp dequeued
      exact calm
  | enterDispatch submission =>
      simp only [step] at taken
      split at taken
      · cases taken
      · rename_i call present
        obtain ⟨regular, calm⟩ := regular call present
        split at taken
        · rename_i dequeued
          cases taken
          exact State.Regular.withCall (s := s) (regular.enterDispatch dequeued) calm
        · cases taken
  | callPoll submission =>
      simp only [step] at taken
      split at taken
      · split at taken <;> cases taken <;> exact regular
      · cases taken
  | returnPoll submission work =>
      simp only [step] at taken
      split at taken
      · cases taken
        exact regular
      · cases taken
  | endWrapper submission work =>
      simp only [step] at taken
      split at taken
      · cases taken
        split
        · exact State.Regular.submit (s := s.move submission (.polled work) .done) regular
        · exact regular
      · cases taken
  | leaveDispatch submission =>
      simp only [step] at taken
      split at taken
      · cases taken
        cases present : s.napi.threadCall with
        | none => exact regular
        | some call =>
            obtain ⟨regular, calm⟩ := regular call present
            exact .withCall regular calm
      · cases taken

theorem reaches_regular {allows : Label Thread → State Thread → Prop} {allocated : Bool}
    {s : State Thread} (run : machine.Reaches allows (.added allocated) s) : s.Regular := by
  refine run.keeps State.Regular (fun _ _ _ _ taken => step_regular taken) ?_
  intro call found
  cases allocated
  · cases found
  · cases found
    exact ⟨rfl, rfl⟩

/-! ## A single poller -/

theorem step_single {label : Label Thread} {s t : State Thread} (allowed : schedulesApart label s)
    (taken : step label s = some t) (regular : s.Regular) (single : s.Single) : t.Single := by
  cases label with
  | beginSchedule thread =>
      simp only [step] at taken
      split at taken
      · cases taken
        exact single
      · cases taken
  | enterThreadCall thread =>
      simp only [step] at taken
      split at taken
      · cases taken
        split
        · exact State.Single.submit regular allowed
        · exact single
      · cases taken
  | endSchedule thread =>
      simp only [step] at taken
      split at taken
      · cases taken
        exact single
      · cases taken
  | dequeue =>
      obtain ⟨call, dequeued, rfl⟩ := Option.map_eq_some_iff.mp taken
      obtain ⟨before, present, dequeued⟩ := Option.bind_eq_some_iff.mp dequeued
      obtain ⟨submission, queued, rfl⟩ := Option.map_eq_some_iff.mp dequeued
      unfold State.Single State.outstanding at *
      simpa [present, State.withCall, NativeCall.outstanding, queued, Nat.add_comm,
        State.unfinished] using single
  | enterDispatch submission =>
      simp only [step] at taken
      split at taken
      · cases taken
      · rename_i call present
        split at taken
        · rename_i dequeued
          cases taken
          obtain ⟨regular, calm⟩ := regular call present
          have free := Rtw88Call.outstanding_enterDispatch regular dequeued
          obtain ⟨empty, only, -⟩ := regular.dequeued dequeued
          unfold State.Single State.outstanding State.unfinished at *
          simp only [present, Option.elim_some, NativeCall.outstanding, empty, only,
            Option.toList_none, List.nil_append, List.length_singleton] at single
          have rest := List.eq_nil_of_length_eq_zero (show (s.inside.filter
            fun entry => !entry.2.over s.napi.weight).length = 0 by omega)
          simp [State.withCall, free, calm, rest]
        · cases taken
  | callPoll submission =>
      simp only [step] at taken
      split at taken
      · rename_i entered
        split at taken <;> cases taken <;> exact single.move entered (by rintro ⟨⟩)
      · cases taken
  | returnPoll submission work =>
      simp only [step] at taken
      split at taken
      · rename_i polling
        cases taken
        exact single.move polling (by rintro ⟨⟩)
      · cases taken
  | endWrapper submission work =>
      simp only [step] at taken
      split at taken
      · rename_i polled
        cases taken
        split
        · rename_i again
          have polls : (Stage.polled work).over s.napi.weight = false :=
            decide_eq_false (Nat.not_lt.mpr again)
          exact State.Single.submit (s := s.move submission (.polled work) .done) regular
            (single.unfinished_move polled polls rfl)
        · exact single.move polled fun _ => rfl
      · cases taken
  | leaveDispatch submission =>
      simp only [step] at taken
      split at taken
      · rename_i done
        cases taken
        unfold State.Single State.outstanding State.unfinished at *
        rw [State.length_filter_erase done] at single
        simp only [Stage.over_done, Bool.not_true, Bool.toNat_false, Nat.zero_add] at single
        cases present : s.napi.threadCall with
        | none => simpa [present] using single
        | some call =>
            rw [present] at single
            exact single
      · cases taken

theorem reaches_single {allocated : Bool} {s : State Thread}
    (run : machine.Reaches schedulesApart (.added allocated) s) : s.Regular ∧ s.Single := by
  have initially : (State.added allocated : State Thread).Single := by
    cases allocated <;> exact Nat.zero_le 1
  refine run.keeps (fun s => s.Regular ∧ s.Single) ?_ ⟨?_, initially⟩
  · exact fun _ _ _ allowed taken held =>
      ⟨step_regular taken held.1, step_single allowed taken held.1 held.2⟩
  · exact reaches_regular (.refl : machine.Reaches schedulesApart _ _)

/-! ## No call is lost -/

/-- A step never takes away what a call asked for. -/
theorem step_served {before : Nat} {label : Label Thread} {s t : State Thread}
    (taken : step label s = some t) (regular : s.Regular) (registered : s.registered = true)
    (earlier : before ≤ s.polls) (served : s.Served before) : t.Served before := by
  cases label with
  | beginSchedule thread =>
      simp only [step] at taken
      split at taken
      · cases taken
        exact served
      · cases taken
  | enterThreadCall thread =>
      simp only [step, registered, if_true] at taken
      split at taken
      · cases taken
        exact State.Served.submit regular served
      · cases taken
  | endSchedule thread =>
      simp only [step] at taken
      split at taken
      · cases taken
        exact served
      · cases taken
  | dequeue =>
      obtain ⟨call, dequeued, rfl⟩ := Option.map_eq_some_iff.mp taken
      obtain ⟨_, -, dequeued⟩ := Option.bind_eq_some_iff.mp dequeued
      obtain ⟨submission, -, rfl⟩ := Option.map_eq_some_iff.mp dequeued
      exact .inl (.inl (by simp [State.outstanding, State.withCall, NativeCall.outstanding]))
  | enterDispatch submission =>
      simp only [step] at taken
      split at taken
      · cases taken
      · rename_i call present
        split at taken
        · cases taken
          refine .inl (.inr ⟨submission, ?_⟩)
          simp [(regular call present).2]
        · cases taken
  | callPoll submission =>
      simp only [step] at taken
      split at taken
      · split at taken
        · cases taken
          exact .inr (Nat.lt_succ_of_le earlier)
        · rename_i unset
          exact absurd (Bool.and_eq_true_iff.mp registered).1 unset
      · cases taken
  | returnPoll submission work =>
      simp only [step] at taken
      split at taken
      · cases taken
        exact served.move (by rintro ⟨⟩)
      · cases taken
  | endWrapper submission work =>
      simp only [step] at taken
      split at taken
      · cases taken
        have moved : (s.move submission (.polled work) .done).Served before :=
          served.move (by rintro ⟨⟩)
        split
        · exact moved.submit regular
        · exact moved
      · cases taken
  | leaveDispatch submission =>
      simp only [step] at taken
      split at taken
      · cases taken
        have left : State.Served { s with inside := s.inside.erase (submission, .done) } before :=
          served.imp (fun awaits => awaits.imp id fun waits =>
            waits.imp fun _ entered => (List.mem_erase_of_ne (by simp)).mpr entered) id
        cases present : s.napi.threadCall with
        | none => exact left
        | some call =>
            refine left.imp (fun awaits => awaits.imp (fun outstanding => ?_) id) id
            simpa [State.outstanding, State.withCall, present, Rtw88Call.leaveDispatch]
              using outstanding
      · cases taken

/-- What is known of the calls of `rtw88_napi_schedule`, and of the context. -/
structure State.Tracked (s : State Thread) : Prop where
  regular : s.Regular
  earlier : ∀ thread schedule, s.scheduling thread = some schedule → schedule.before ≤ s.polls
  served : ∀ thread schedule, s.scheduling thread = some schedule → schedule.submitted = true →
    s.registered = true → s.Served schedule.before

@[simp]
theorem State.registered_submit {Thread : Type} (s : State Thread) :
    s.submit.registered = s.registered := by
  simp [State.registered, State.submit]

/-- A step keeps the context registered and takes no poll back. -/
theorem step_keeps {label : Label Thread} {s t : State Thread} (taken : step label s = some t) :
    t.registered = s.registered ∧ s.polls ≤ t.polls := by
  cases label with
  | beginSchedule | endSchedule | returnPoll =>
      simp only [step] at taken
      split at taken <;> cases taken
      exact ⟨rfl, Nat.le_refl _⟩
  | enterThreadCall thread =>
      simp only [step] at taken
      split at taken <;> cases taken
      split
      · exact ⟨s.registered_submit, Nat.le_refl _⟩
      · exact ⟨rfl, Nat.le_refl _⟩
  | dequeue =>
      obtain ⟨call, dequeued, rfl⟩ := Option.map_eq_some_iff.mp taken
      obtain ⟨_, present, -⟩ := Option.bind_eq_some_iff.mp dequeued
      exact ⟨by simp [State.registered, State.withCall, present], Nat.le_refl _⟩
  | enterDispatch submission =>
      simp only [step] at taken
      split at taken
      · cases taken
      · rename_i call present
        split at taken <;> cases taken
        exact ⟨by simp [State.registered, State.withCall, present], Nat.le_refl _⟩
  | callPoll submission =>
      simp only [step] at taken
      split at taken
      · split at taken <;> cases taken
        · exact ⟨rfl, Nat.le_succ _⟩
        · exact ⟨rfl, Nat.le_refl _⟩
      · cases taken
  | endWrapper submission work =>
      simp only [step] at taken
      split at taken <;> cases taken
      split
      · exact ⟨State.registered_submit _, Nat.le_refl _⟩
      · exact ⟨rfl, Nat.le_refl _⟩
  | leaveDispatch submission =>
      simp only [step] at taken
      split at taken <;> cases taken
      cases present : s.napi.threadCall with
      | none => exact ⟨rfl, Nat.le_refl _⟩
      | some call => exact ⟨by simp [State.registered, State.withCall, present], Nat.le_refl _⟩

/-- The calls of `rtw88_napi_schedule` that a step leaves: they were there, or one has begun or
has entered the thread call. -/
theorem step_scheduling {label : Label Thread} {s t : State Thread} {thread : Thread}
    {schedule : Schedule} (taken : step label s = some t)
    (found : t.scheduling thread = some schedule) :
    s.scheduling thread = some schedule ∨ schedule = ⟨s.polls, false⟩ ∨
      (label = .enterThreadCall thread ∧ s.scheduling thread = some ⟨schedule.before, false⟩) := by
  have updated : ∀ (u : State Thread) caller new, u.scheduling = s.scheduling →
      (u.setSchedule caller new).scheduling thread = some schedule →
      s.scheduling thread = some schedule ∨ (caller = thread ∧ new = some schedule) := by
    intro u caller new same found
    by_cases is : thread = caller
    · subst is
      exact .inr ⟨rfl, by simpa [State.setSchedule] using found⟩
    · exact .inl (by simpa [State.setSchedule, is, same] using found)
  cases label with
  | beginSchedule caller =>
      simp only [step] at taken
      split at taken <;> cases taken
      refine (updated s caller _ rfl found).imp id fun new => .inl ?_
      exact (Option.some.inj new.2).symm
  | enterThreadCall caller =>
      simp only [step] at taken
      split at taken <;> cases taken
      rename_i before waiting
      have same : (if s.registered = true then s.submit else s).scheduling = s.scheduling := by
        split <;> rfl
      refine (updated _ caller _ same found).imp id fun new => .inr ?_
      obtain ⟨rfl, new⟩ := new
      cases new
      exact ⟨rfl, waiting⟩
  | endSchedule caller =>
      simp only [step] at taken
      split at taken <;> cases taken
      exact (updated s caller _ rfl found).imp id fun new => nomatch new.2
  | dequeue =>
      obtain ⟨call, -, rfl⟩ := Option.map_eq_some_iff.mp taken
      exact .inl found
  | enterDispatch submission =>
      simp only [step] at taken
      split at taken
      · cases taken
      · split at taken <;> cases taken
        exact .inl found
  | callPoll submission =>
      simp only [step] at taken
      split at taken
      · split at taken <;> cases taken <;> exact .inl found
      · cases taken
  | returnPoll submission work =>
      simp only [step] at taken
      split at taken <;> cases taken
      exact .inl found
  | endWrapper submission work =>
      simp only [step] at taken
      split at taken <;> cases taken
      split at found <;> exact .inl found
  | leaveDispatch submission =>
      simp only [step] at taken
      split at taken <;> cases taken
      cases present : s.napi.threadCall with
      | none =>
          rw [present] at found
          exact .inl found
      | some call =>
          rw [present] at found
          exact .inl found

theorem step_tracked {label : Label Thread} {s t : State Thread} (taken : step label s = some t)
    (tracked : s.Tracked) : t.Tracked := by
  obtain ⟨regular, earlier, served⟩ := tracked
  obtain ⟨registered, polls⟩ := step_keeps taken
  refine ⟨step_regular taken regular, fun thread schedule found => ?_, ?_⟩
  · rcases step_scheduling taken found with old | rfl | ⟨-, old⟩
    · exact Nat.le_trans (earlier thread schedule old) polls
    · exact polls
    · exact Nat.le_trans (earlier thread ⟨schedule.before, false⟩ old) polls
  · intro thread schedule found submitted stillRegistered
    have wasRegistered : s.registered = true := registered ▸ stillRegistered
    rcases step_scheduling taken found with old | rfl | ⟨rfl, old⟩
    · exact step_served taken regular wasRegistered (earlier thread schedule old)
        (served thread schedule old submitted wasRegistered)
    · cases submitted
    · -- The thread call was entered in this step, so the call is outstanding.
      simp only [step, old, wasRegistered, if_true, Option.some.injEq] at taken
      subst taken
      cases present : s.napi.threadCall with
      | none => simp [State.registered, present] at wasRegistered
      | some call =>
          have outstanding :=
            State.outstanding_submit (regular call present).1 (regular call present).2
          refine .inl (.inl ?_)
          simpa [State.outstanding, State.setSchedule, State.submit, present] using outstanding

theorem reaches_tracked {allows : Label Thread → State Thread → Prop} {allocated : Bool}
    {s : State Thread} (run : machine.Reaches allows (.added allocated) s) : s.Tracked :=
  run.keeps State.Tracked (fun _ _ _ _ taken => step_tracked taken)
    ⟨reaches_regular (.refl : machine.Reaches allows _ _), nofun, nofun⟩

/-- If the thread call is only entered while no callback may still poll, at most one polls; and
no call is lost. -/
theorem schedulesApart_serves (Thread : Type) [DecidableEq Thread] (allocated : Bool)
    (s : State Thread) : AlwaysServes schedulesApart Thread allocated s := by
  intro run
  obtain ⟨-, single⟩ := reaches_single run
  refine ⟨?_, (reaches_tracked run).served⟩
  have fewer : s.polling.length ≤ s.unfinished.length := by
    refine List.Sublist.length_le (List.monotone_filter_right s.inside fun entry polls => ?_)
    rw [of_decide_eq_true polls]
    rfl
  unfold State.Single at single
  omega

/-- A call during a poll starts a second one. -/
theorem not_free_serves : ¬ ∀ (Thread : Type) [DecidableEq Thread] (allocated : Bool)
    (s : State Thread), AlwaysServes Machine.free Thread allocated s := by
  intro serves
  have second := serves Unit true _ (Machine.reaches_of_play
    [.beginSchedule (), .enterThreadCall (), .endSchedule (), .dequeue, .enterDispatch 0,
      .callPoll 0, .beginSchedule (), .enterThreadCall (), .endSchedule (), .dequeue,
      .enterDispatch 1, .callPoll 1] rfl)
  exact absurd second.single (by decide)

end Napi

end AirportRtw88
