import AirportRtw88.Interleave.Machine
import Mathlib.Data.Finset.Card
import Mathlib.Logic.Function.Basic

/-!
# Semaphores and atomic counters

The semaphores of `mutex.h` count their permits under a lock, and `atomic_dec_if_positive` counts
without one.  Both counters are an `int`.  The file models any number of threads that use them, and
proves that they count right exactly as long as the counter does not wrap around.
-/

namespace AirportRtw88

open Interleave

/-- The largest `int`. -/
def intMax : Int :=
  2147483647

/-- The `int` that arithmetic leaves, which wraps around. -/
def cInt (number : Int) : Int :=
  (number + 2147483648) % 4294967296 - 2147483648

theorem cInt_of_fits {number : Int} (low : 0 ≤ number) (high : number ≤ intMax) :
    cInt number = number := by
  unfold cInt intMax at *
  omega

theorem cInt_intMax_succ : cInt (intMax + 1) = -2147483648 :=
  rfl

/-! ## Semaphores -/

/-- `struct semaphore`, the threads in the loop of `down` that are about to look at `count`, those
in `IOLockSleep`, and how often `down` and `up` have finished. -/
structure Semaphore where
  count : Int
  checking : Finset Nat
  asleep : Finset Nat
  downs : Nat
  ups : Nat
  deriving DecidableEq

/-- A section under the lock; `up` wakes one thread, if any sleeps. -/
inductive SemaphoreStep where
  | enter (thread : Nat)
  | check (thread : Nat)
  | tryDown
  | up (woken : Option Nat)

namespace Semaphore

/-- `sema_init`. -/
def init (val : Int) : Semaphore where
  count := val
  checking := ∅
  asleep := ∅
  downs := 0
  ups := 0

/-- One permit is taken. -/
def take (s : Semaphore) : Semaphore :=
  { s with
    count := cInt (s.count - 1)
    downs := s.downs + 1 }

/-- One permit is given back. -/
def give (s : Semaphore) : Semaphore :=
  { s with
    count := cInt (s.count + 1)
    ups := s.ups + 1 }

/-- `IOLockWakeup` of one thread. -/
def wake (s : Semaphore) : Option Nat → Option Semaphore
  | none => if s.asleep = ∅ then some s else none
  | some thread =>
      if thread ∈ s.asleep then
        some { s with
          checking := insert thread s.checking
          asleep := s.asleep.erase thread }
      else none

def step : SemaphoreStep → Semaphore → Option Semaphore
  | .enter thread, s =>
      if thread ∉ s.checking ∧ thread ∉ s.asleep then
        some { s with checking := insert thread s.checking }
      else none
  | .check thread, s =>
      if thread ∈ s.checking then
        let left := { s with checking := s.checking.erase thread }
        some (if s.count ≤ 0 then { left with asleep := insert thread s.asleep } else left.take)
      else none
  | .tryDown, s => some (if 0 < s.count then s.take else s)
  | .up woken, s => s.give.wake woken

def machine : Machine SemaphoreStep Semaphore where
  step := step

/-- The permits that a semaphore has had at first and from `up`, and that no `down` has taken. -/
def permits (val : Int) (s : Semaphore) : Int :=
  val + s.ups - s.downs

/-- What a semaphore promises to its users. -/
structure Fair (val : Int) (s : Semaphore) : Prop where
  /-- Every permit that was taken was there at the start, or was given back. -/
  bounded : 0 ≤ permits val s
  /-- `down_trylock` fails only when all permits are taken. -/
  exhausted : step .tryDown s = some s → permits val s = 0
  /-- No wake-up is lost: while a thread sleeps, a free permit has a thread that takes it when it
  looks next. -/
  awake : 0 < permits val s → s.asleep.Nonempty →
    ∃ thread ∈ s.checking, ∃ t, step (.check thread) s = some t ∧ t.downs = s.downs + 1

/-- A permit is given back only while there are fewer than an `int` can count. -/
def Countable (val : Int) (label : SemaphoreStep) (s : Semaphore) : Prop :=
  ∀ woken, label = .up woken → (step label s).isSome → permits val s < intMax

/-- The counter tells the permits, and there are never more than threads about to take one while a
thread sleeps. -/
structure Counts (val : Int) (s : Semaphore) : Prop where
  counted : s.count = permits val s
  nonneg : 0 ≤ s.count
  small : s.count ≤ intMax
  awake : s.asleep.Nonempty → s.count ≤ s.checking.card
  apart : Disjoint s.checking s.asleep

variable {val : Int} {s t : Semaphore}

theorem Counts.enter (counts : Counts val s) {thread : Nat} (fresh : thread ∉ s.checking)
    (awake : thread ∉ s.asleep) :
    Counts val { s with checking := insert thread s.checking } where
  counted := counts.counted
  nonneg := counts.nonneg
  small := counts.small
  awake sleeper := by
    have few := counts.awake sleeper
    rw [Finset.card_insert_of_notMem fresh]
    push_cast
    omega
  apart := Finset.disjoint_insert_left.mpr ⟨awake, counts.apart⟩

/-- A thread that finds no permit goes to sleep. -/
theorem Counts.sleep (counts : Counts val s) {thread : Nat} (empty : s.count ≤ 0) :
    Counts val { s with
      checking := s.checking.erase thread
      asleep := insert thread s.asleep } where
  counted := counts.counted
  nonneg := counts.nonneg
  small := counts.small
  awake _ := empty.trans (Int.natCast_nonneg _)
  apart := by
    rw [Finset.disjoint_insert_right]
    exact ⟨Finset.notMem_erase thread s.checking,
      counts.apart.mono_left (Finset.erase_subset thread s.checking)⟩

/-- A thread takes a permit, in `down` or without waiting. -/
theorem Counts.take (counts : Counts val s) (left : 0 < s.count) {checking : Finset Nat}
    (fewer : checking ⊆ s.checking) (most : s.checking.card ≤ checking.card + 1) :
    Counts val ({ s with checking }.take) := by
  have small := counts.small
  have counted := counts.counted
  have less : cInt (s.count - 1) = s.count - 1 := cInt_of_fits (by omega) (by omega)
  simp only [permits] at counted
  constructor
  case counted =>
    simp only [Semaphore.take, permits, less]
    push_cast
    omega
  case nonneg =>
    simp only [Semaphore.take, less]
    omega
  case small =>
    simp only [Semaphore.take, less]
    omega
  case awake =>
    intro sleeper
    have few := counts.awake sleeper
    simp only [Semaphore.take, less]
    omega
  case apart => exact counts.apart.mono_left fewer

/-- A permit is given back, and wakes a thread if one sleeps. -/
theorem Counts.up (counts : Counts val s) (room : permits val s < intMax) {woken : Option Nat}
    (wakes : s.give.wake woken = some t) : Counts val t := by
  have counted := counts.counted
  have nonneg := counts.nonneg
  have more : cInt (s.count + 1) = s.count + 1 := cInt_of_fits (by omega) (by omega)
  simp only [permits] at counted room
  have given : s.give.count = permits val s.give ∧ 0 ≤ s.give.count ∧ s.give.count ≤ intMax := by
    simp only [give, permits, more]
    push_cast
    omega
  cases woken with
  | none =>
      obtain ⟨nobody, same⟩ := Option.ite_none_right_eq_some.mp wakes
      obtain rfl := Option.some.inj same
      exact ⟨given.1, given.2.1, given.2.2, fun sleeper => absurd nobody sleeper.ne_empty,
        counts.apart⟩
  | some thread =>
      obtain ⟨sleeps, same⟩ := Option.ite_none_right_eq_some.mp wakes
      obtain rfl := Option.some.inj same
      have fresh : thread ∉ s.checking := Finset.disjoint_right.mp counts.apart sleeps
      refine ⟨given.1, given.2.1, given.2.2, fun sleeper => ?_, ?_⟩
      · have few := counts.awake ⟨thread, sleeps⟩
        dsimp only [give]
        rw [Finset.card_insert_of_notMem fresh, more]
        push_cast
        omega
      · rw [Finset.disjoint_insert_left]
        exact ⟨Finset.notMem_erase thread s.asleep,
          counts.apart.mono_right (Finset.erase_subset thread s.asleep)⟩

/-- Each section keeps the count. -/
theorem Counts.step {label : SemaphoreStep} (counts : Counts val s)
    (countable : Countable val label s) (taken : step label s = some t) : Counts val t := by
  cases label with
  | enter thread =>
      obtain ⟨⟨fresh, awake⟩, same⟩ := Option.ite_none_right_eq_some.mp taken
      obtain rfl := Option.some.inj same
      exact counts.enter fresh awake
  | check thread =>
      obtain ⟨member, same⟩ := Option.ite_none_right_eq_some.mp taken
      obtain rfl := Option.some.inj same
      by_cases empty : s.count ≤ 0
      · rw [if_pos empty]
        exact counts.sleep empty
      · rw [if_neg empty]
        refine counts.take (Int.not_le.mp empty) (Finset.erase_subset thread s.checking) ?_
        rw [Finset.card_erase_of_mem member]
        omega
  | tryDown =>
      obtain rfl := Option.some.inj taken
      split
      case isTrue left => exact counts.take left subset_rfl (Nat.le_succ _)
      case isFalse => exact counts
  | up woken => exact counts.up (countable woken rfl (by rw [taken]; rfl)) taken

theorem Counts.fair (counts : Counts val s) : Fair val s where
  bounded := counts.counted ▸ counts.nonneg
  exhausted fails := by
    have counted := counts.counted
    have nonneg := counts.nonneg
    by_cases left : 0 < s.count
    · have same : s.take = s := by
        rw [Semaphore.step, if_pos left] at fails
        exact Option.some.inj fails
      have more := congrArg Semaphore.downs same
      simp [Semaphore.take] at more
    · omega
  awake left sleeper := by
    have counted := counts.counted
    have few := counts.awake sleeper
    have some : s.checking.Nonempty := Finset.card_pos.mp (by omega)
    obtain ⟨thread, member⟩ := some
    refine ⟨thread, member, _, if_pos member, ?_⟩
    rw [if_neg (by omega)]
    rfl

theorem wake_counters {woken : Option Nat} (wakes : s.wake woken = some t) :
    t.count = s.count ∧ t.downs = s.downs ∧ t.ups = s.ups := by
  cases woken with
  | none =>
      obtain ⟨-, same⟩ := Option.ite_none_right_eq_some.mp wakes
      obtain rfl := Option.some.inj same
      exact ⟨rfl, rfl, rfl⟩
  | some thread =>
      obtain ⟨-, same⟩ := Option.ite_none_right_eq_some.mp wakes
      obtain rfl := Option.some.inj same
      exact ⟨rfl, rfl, rfl⟩

/-- One permit too many makes the counter negative, and all of them are lost. -/
theorem Counts.lost {label : SemaphoreStep} (counts : Counts val s)
    (tooMany : ¬ Countable val label s) :
    ∃ t, Semaphore.step label s = some t ∧ ¬ Fair val t := by
  simp only [Countable, not_forall] at tooMany
  obtain ⟨woken, rfl, possible, full⟩ := tooMany
  obtain ⟨t, taken⟩ := Option.isSome_iff_exists.mp possible
  obtain ⟨count, downs, ups⟩ := wake_counters (s := s.give) taken
  have counted := counts.counted
  have small := counts.small
  have last : s.count = intMax := by omega
  have negative : t.count = -2147483648 := by
    rw [count, give, last, cInt_intMax_succ]
  refine ⟨t, taken, fun fair => ?_⟩
  have fails : Semaphore.step .tryDown t = some t := by
    rw [Semaphore.step, if_neg (by omega)]
  have none := fair.exhausted fails
  simp only [permits, downs, ups, give, intMax] at none counted last
  push_cast at none
  omega

/-- In every run of any threads, the semaphore keeps its promises as long as `up` is never called
while there are as many permits as an `int` can count, and no longer. -/
theorem semaphore_fair_iff (val : Int) (start : 0 ≤ val) (fits : val ≤ intMax)
    (labels : List SemaphoreStep) :
    machine.Along (Fair val) labels (init val) ↔
      machine.Keeps (Countable val) labels (init val) := by
  apply Machine.along_iff_keeps (fun _ counts => Counts.fair counts)
  · exact fun label before after counts countable taken => counts.step countable taken
  · exact fun label before counts tooMany => counts.lost tooMany
  · constructor
    case counted => simp [init, permits]
    case nonneg => exact start
    case small => exact fits
    case awake => exact fun sleeper => absurd rfl sleeper.ne_empty
    case apart => exact Finset.disjoint_empty_left _

/-- A section gives back at most one permit. -/
theorem permits_le_of_step (val : Int) {label : SemaphoreStep} (taken : step label s = some t) :
    permits val t ≤ permits val s + 1 := by
  cases label with
  | enter thread =>
      obtain ⟨-, same⟩ := Option.ite_none_right_eq_some.mp taken
      obtain rfl := Option.some.inj same
      exact Int.le_add_one le_rfl
  | check thread =>
      obtain ⟨-, same⟩ := Option.ite_none_right_eq_some.mp taken
      obtain rfl := Option.some.inj same
      split <;> simp only [permits, take] <;> push_cast <;> omega
  | tryDown =>
      obtain rfl := Option.some.inj taken
      split <;> simp only [permits, take] <;> push_cast <;> omega
  | up woken =>
      obtain ⟨-, downs, ups⟩ := wake_counters (s := s.give) taken
      simp only [permits, downs, ups, give]
      push_cast
      omega

/-- A run that is too short to overflow the counter. -/
theorem keeps_countable_of_short (labels : List SemaphoreStep)
    (short : permits val s + labels.length < intMax) :
    machine.Keeps (Countable val) labels s := by
  induction labels generalizing s with
  | nil => trivial
  | cons label rest ih =>
      rw [List.length_cons] at short
      push_cast at short
      constructor
      · intro woken _ _
        omega
      · intro next taken
        have most := permits_le_of_step val taken
        exact ih (by omega)

/-- A thread sleeps, and is woken by the other one. -/
def wokenThread : List SemaphoreStep :=
  [.enter 1, .check 1, .enter 2, .check 2, .up (some 2), .check 2]

theorem semaphore_fair_woken :
    ∃ s, machine.play wokenThread (init 1) = some s ∧ s.downs = 2 ∧ Fair 1 s := by
  have short : machine.Keeps (Countable 1) wokenThread (init 1) :=
    keeps_countable_of_short wokenThread (by decide)
  have fair := (semaphore_fair_iff 1 (by decide) (by decide) wokenThread).mpr short
  exact ⟨_, rfl, rfl, fair.of_play rfl⟩

end Semaphore

/-! ## Atomic counters -/

/-- What a thread has to do with `atomic_dec_if_positive`: what it holds in `c` during a call,
whether the counter was not positive at some time since it entered the call, and what its last
call returned. -/
structure DecCall where
  held : Option Int
  seenEmpty : Bool
  returned : Option Int

/-- `atomic_t` with the calls of its threads, and how often it was incremented and decremented. -/
structure AtomicCounter where
  counter : Int
  calls : Nat → DecCall
  increments : Nat
  decrements : Nat

/-- An atomic access of the counter; a thread enters its call with `atomic_read`. -/
inductive AtomicStep where
  | inc
  | enter (thread : Nat)
  | compareAndSwap (thread : Nat)

namespace AtomicCounter

/-- `ATOMIC_INIT`. -/
def init (value : Int) : AtomicCounter where
  counter := value
  calls _ := ⟨none, false, none⟩
  increments := 0
  decrements := 0

/-- The counter has a new value, which the calls under way may remember. -/
def write (s : AtomicCounter) (value : Int) : AtomicCounter :=
  { s with
    counter := value
    calls := fun thread =>
      { s.calls thread with seenEmpty := (s.calls thread).seenEmpty || decide (value ≤ 0) } }

def setCall (s : AtomicCounter) (thread : Nat) (call : DecCall) : AtomicCounter :=
  { s with calls := Function.update s.calls thread call }

/-- A thread returns from its call. -/
def leave (s : AtomicCounter) (thread : Nat) (result : Int) : AtomicCounter :=
  s.setCall thread { s.calls thread with held := none, returned := some result }

/-- `atomic_inc`, and the rounds of the loop of `atomic_dec_if_positive`. -/
def step : AtomicStep → AtomicCounter → Option AtomicCounter
  | .inc, s => some { s.write (cInt (s.counter + 1)) with increments := s.increments + 1 }
  | .enter thread, s =>
      if (s.calls thread).held = none then
        some (s.setCall thread { s.calls thread with
          held := some s.counter
          seenEmpty := decide (s.counter ≤ 0) })
      else none
  | .compareAndSwap thread, s =>
      (s.calls thread).held.map fun c =>
        if c ≤ 0 then s.leave thread (cInt (c - 1))
        else if s.counter = c then
          { (s.write (cInt (c - 1))).leave thread (cInt (c - 1)) with
            decrements := s.decrements + 1 }
        else s.setCall thread { s.calls thread with held := some s.counter }

def machine : Machine AtomicStep AtomicCounter where
  step := step

/-- A call that is under way knows when the counter was empty, and one that has returned -1 has
seen it empty; any other result is what a decrement has left. -/
structure Sees (counter : Int) (call : DecCall) : Prop where
  nonneg : ∀ c, call.held = some c → 0 ≤ c
  seen : ∀ c, call.held = some c → c ≤ 0 ∨ counter ≤ 0 → call.seenEmpty = true
  returned : ∀ result, call.held = none → call.returned = some result →
    0 ≤ result ∨ result = -1 ∧ call.seenEmpty = true

/-- What was added and not taken. -/
def left (value : Int) (s : AtomicCounter) : Int :=
  value + s.increments - s.decrements

/-- The counter is incremented only while it is not the largest `int`. -/
def Countable (value : Int) (label : AtomicStep) (s : AtomicCounter) : Prop :=
  label = .inc → left value s < intMax

/-- The counter is what was added and not taken. -/
structure Linear (value : Int) (s : AtomicCounter) : Prop where
  counted : s.counter = left value s
  nonneg : 0 ≤ s.counter
  small : s.counter ≤ intMax
  calls : ∀ thread, Sees s.counter (s.calls thread)

variable {value : Int} {s t : AtomicCounter}

/-- A counter with a new value, which every call that was under way has seen. -/
theorem Sees.write {counter : Int} {call : DecCall} (sees : Sees counter call) (next : Int) :
    Sees next { call with seenEmpty := call.seenEmpty || decide (next ≤ 0) } where
  nonneg := sees.nonneg
  seen c under empty := by
    rw [Bool.or_eq_true, decide_eq_true_eq]
    rcases empty with empty | empty
    · exact .inl (sees.seen c under (.inl empty))
    · exact .inr empty
  returned result idle found := by
    rcases sees.returned result idle found with right | ⟨negative, seen⟩
    · exact .inl right
    · exact .inr ⟨negative, by rw [seen, Bool.true_or]⟩

theorem Linear.setCall (linear : Linear value s) (thread : Nat) {call : DecCall}
    (sees : Sees s.counter call) : Linear value (s.setCall thread call) where
  counted := linear.counted
  nonneg := linear.nonneg
  small := linear.small
  calls other := by
    by_cases same : other = thread
    · rw [AtomicCounter.setCall, same]
      dsimp only
      rwa [Function.update_self]
    · rw [AtomicCounter.setCall]
      dsimp only
      rw [Function.update_of_ne same]
      exact linear.calls other

/-- A thread returns a result that it may return. -/
theorem Linear.leave (linear : Linear value s) {thread : Nat} {result : Int}
    (right : 0 ≤ result ∨ result = -1 ∧ (s.calls thread).seenEmpty = true) :
    Linear value (s.leave thread result) := by
  refine linear.setCall thread ⟨nofun, nofun, fun other _ found => ?_⟩
  exact Option.some.inj found ▸ right

/-- The counter changes by what is counted. -/
theorem Linear.write (linear : Linear value s) {next : Int} (positive : 0 ≤ next)
    (small : next ≤ intMax) (increments decrements : Nat)
    (counted : next = value + increments - decrements) :
    Linear value { s.write next with increments, decrements } where
  counted := counted
  nonneg := positive
  small := small
  calls thread := (linear.calls thread).write next

/-- A round of the loop. -/
theorem Linear.compareAndSwap {thread : Nat} (linear : Linear value s)
    (taken : step (.compareAndSwap thread) s = some t) : Linear value t := by
  obtain ⟨c, under, rfl⟩ := Option.map_eq_some_iff.mp taken
  have sees := linear.calls thread
  have start := sees.nonneg c under
  by_cases empty : c ≤ 0
  · obtain rfl : c = 0 := le_antisymm empty start
    rw [if_pos empty]
    exact linear.leave (.inr ⟨rfl, sees.seen 0 under (.inl empty)⟩)
  · rw [if_neg empty]
    split
    case isTrue current =>
      have counted := linear.counted
      have small := linear.small
      have less : cInt (c - 1) = c - 1 := cInt_of_fits (by omega) (by omega)
      rw [less]
      have written := linear.write (show 0 ≤ c - 1 by omega) (by omega) s.increments
        (s.decrements + 1) (by rw [left] at counted; push_cast; omega)
      exact written.leave (.inl (by omega))
    case isFalse =>
      refine linear.setCall thread ⟨fun other same => ?_, fun other same below => ?_, nofun⟩
      · exact Option.some.inj same ▸ linear.nonneg
      · obtain rfl := Option.some.inj same
        exact sees.seen c under (.inr (by tauto))

theorem Linear.step {label : AtomicStep} (linear : Linear value s)
    (countable : Countable value label s) (taken : step label s = some t) : Linear value t := by
  cases label with
  | inc =>
      obtain rfl := Option.some.inj taken
      have counted := linear.counted
      have nonneg := linear.nonneg
      have room := countable rfl
      have more : cInt (s.counter + 1) = s.counter + 1 := cInt_of_fits (by omega) (by omega)
      rw [more]
      exact linear.write (by omega) (by omega) (s.increments + 1) s.decrements
        (by rw [left] at counted; push_cast; omega)
  | enter thread =>
      obtain ⟨idle, same⟩ := Option.ite_none_right_eq_some.mp taken
      obtain rfl := Option.some.inj same
      refine linear.setCall thread ⟨fun c found => ?_, fun c found below => ?_, nofun⟩
      · exact Option.some.inj found ▸ linear.nonneg
      · obtain rfl := Option.some.inj found
        exact decide_eq_true (by tauto)
  | compareAndSwap thread => exact linear.compareAndSwap taken

/-- One increment too many makes the counter negative. -/
theorem Linear.lost {label : AtomicStep} (linear : Linear value s)
    (tooMany : ¬ Countable value label s) :
    ∃ t, AtomicCounter.step label s = some t ∧ ¬ Linear value t := by
  obtain ⟨rfl, full⟩ := Classical.not_imp.mp tooMany
  have counted := linear.counted
  have small := linear.small
  have last : s.counter = intMax := by omega
  refine ⟨_, rfl, fun after => ?_⟩
  have nonneg : 0 ≤ cInt (s.counter + 1) := after.nonneg
  rw [last, cInt_intMax_succ] at nonneg
  exact absurd nonneg (by decide)

/-- However the threads interleave, `atomic_dec_if_positive` takes exactly what it reports, never
takes the counter below zero, and reports that there was nothing to take only if the counter was
empty at some time during the call, as long as the largest `int` is never incremented, and no
longer. -/
theorem decIfPositive_linear_iff (value : Int) (start : 0 ≤ value) (fits : value ≤ intMax)
    (labels : List AtomicStep) :
    machine.Along (Linear value) labels (init value) ↔
      machine.Keeps (Countable value) labels (init value) := by
  apply Machine.along_iff_keeps (fun _ linear => linear)
  · exact fun label before after linear countable taken => linear.step countable taken
  · exact fun label before linear tooMany => linear.lost tooMany
  · constructor
    case counted => simp [init, left]
    case nonneg => exact start
    case small => exact fits
    case calls => exact fun _ => ⟨nofun, nofun, nofun⟩

/-- A run that never increments the counter. -/
theorem keeps_countable_of_decrements (labels : List AtomicStep)
    (decrements : ∀ label ∈ labels, label ≠ .inc) : machine.Keeps (Countable value) labels s := by
  induction labels generalizing s with
  | nil => trivial
  | cons label rest ih =>
      constructor
      · exact fun increments => absurd increments (decrements label List.mem_cons_self)
      · exact fun next _ => ih fun other member => decrements other (List.mem_cons_of_mem _ member)

/-- Two threads read a counter of one; the second finds it empty. -/
def racingThreads : List AtomicStep :=
  [.enter 0, .enter 1, .compareAndSwap 0, .compareAndSwap 1, .compareAndSwap 1]

theorem decIfPositive_linear_race : ∃ s, machine.play racingThreads (init 1) = some s ∧
    (s.calls 0).returned = some 0 ∧ (s.calls 1).returned = some (-1) ∧ Linear 1 s := by
  have keeps : machine.Keeps (Countable 1) racingThreads (init 1) :=
    keeps_countable_of_decrements racingThreads (by simp [racingThreads])
  have linear := (decIfPositive_linear_iff 1 (by decide) (by decide) racingThreads).mpr keeps
  exact ⟨_, rfl, rfl, rfl, linear.of_play rfl⟩

end AtomicCounter

end AirportRtw88
