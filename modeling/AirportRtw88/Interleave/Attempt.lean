import AirportRtw88.Interleave.Frame
import Mathlib.Data.List.Forall2

/-!
# Programs that may fail

An attempt is a program that stops without a result when something goes wrong, such as an access
outside an array.  An attempt agrees with a program if it takes the same steps and always has a
result, as long as the shared state is stable whenever it runs.  The file gives the rules for
agreement, and the rule for pools: a system of attempts that agree with the programs of another
system has the same runs, and no operation of it fails.
-/

namespace Interleave

variable {σ κ ρ ω α β : Type}

/-- A program that may fail. -/
def Attempt (σ κ ρ α : Type) : Type :=
  Prog σ κ ρ (Option α)

namespace Attempt

/-- The rest runs unless the first part fails. -/
def bind (first : Attempt σ κ ρ α) (rest : α → Attempt σ κ ρ β) : Attempt σ κ ρ β :=
  Prog.bind first fun value => value.elim (.ret none) rest

instance : Monad (Attempt σ κ ρ) where
  pure value := .ret (some value)
  bind := bind

/-- A program that does not fail. -/
def lift (program : Prog σ κ ρ α) : Attempt σ κ ρ α :=
  program.bind fun value => .ret (some value)

/-- The shared state. -/
def fetch : Attempt σ κ ρ σ :=
  lift Prog.fetch

/-- Apply a function to the shared state. -/
def update (change : σ → σ) : Attempt σ κ ρ Unit :=
  lift (Prog.update change)

/-- The result of a computation that may fail. -/
def result (value : Option α) : Attempt σ κ ρ α :=
  .ret value

instance : MonadLift (Prog σ κ ρ) (Attempt σ κ ρ) where
  monadLift := lift

instance : MonadLift Option (Attempt σ κ ρ) where
  monadLift := result

/-- Apply a function that may fail to the shared state. -/
def change (change : σ → Option σ) : Attempt σ κ ρ Unit :=
  .read fun state => (change state).elim (.ret none) fun after => .write after (.ret (some ()))

/-- Run the body if the condition holds. -/
def when (condition : Bool) (body : Attempt σ κ ρ Unit) : Attempt σ κ ρ Unit :=
  if condition then body else pure ()

/-- Run the body on the value, if there is one. -/
def whenSome (value : Option α) (body : α → Attempt σ κ ρ Unit) : Attempt σ κ ρ Unit :=
  value.elim (pure ()) body

/-- Run the body on the elements of a list, in order. -/
def forEach (elements : List α) (body : α → Attempt σ κ ρ Unit) : Attempt σ κ ρ Unit :=
  match elements with
  | [] => pure ()
  | element :: rest => do
      body element
      forEach rest body

theorem some_bind (value : α) (rest : α → Attempt σ κ ρ β) :
    ((liftM (some value) : Attempt σ κ ρ α) >>= rest) = rest value :=
  rfl

theorem when_eq {condition : Bool} (holds : condition = true) (body : Attempt σ κ ρ Unit) :
    Attempt.when condition body = body :=
  if_pos holds

/-! ## Agreement -/

variable {stable : σ → Prop}

/-- From the state `now` on, the attempt takes the steps of the program and has its result. -/
inductive AgreesAt (stable : σ → Prop) : σ → Prog σ κ ρ (Option α) → Prog σ κ ρ α → Prop
  | ret (now : σ) (value : α) : AgreesAt stable now (.ret (some value)) (.ret value)
  | read {now : σ} {attempt : σ → Prog σ κ ρ (Option α)} {program : σ → Prog σ κ ρ α}
      (next : AgreesAt stable now (attempt now) (program now)) :
      AgreesAt stable now (.read attempt) (.read program)
  | write {now : σ} {state : σ} {attempt : Prog σ κ ρ (Option α)} {program : Prog σ κ ρ α}
      (holds : stable state) (next : AgreesAt stable state attempt program) :
      AgreesAt stable now (.write state attempt) (.write state program)
  | ask {now : σ} {attempt : ρ → Prog σ κ ρ (Option α)} {program : ρ → Prog σ κ ρ α}
      (next : ∀ answer, AgreesAt stable now (attempt answer) (program answer)) :
      AgreesAt stable now (.ask attempt) (.ask program)
  | call {now : σ} {request : κ} {attempt : ρ → Prog σ κ ρ (Option α)}
      {program : ρ → Prog σ κ ρ α}
      (next : ∀ answer later, stable later →
        AgreesAt stable later (attempt answer) (program answer)) :
      AgreesAt stable now (.call request attempt) (.call request program)

/-- The attempt takes the steps of the program and has its result. -/
structure Agrees (stable : σ → Prop) (attempt : Attempt σ κ ρ α) (program : Prog σ κ ρ α) :
    Prop where
  holds : ∀ now, stable now → AgreesAt stable now attempt program

theorem AgreesAt.bind {now : σ} {attempt : Prog σ κ ρ (Option α)} {program : Prog σ κ ρ α}
    {rest' : α → Attempt σ κ ρ β} {rest : α → Prog σ κ ρ β}
    (first : AgreesAt stable now attempt program) (guard : stable now)
    (second : ∀ value, Agrees stable (rest' value) (rest value)) :
    AgreesAt stable now (Attempt.bind attempt rest') (program.bind rest) := by
  induction first with
  | ret now value => exact (second value).holds now guard
  | read _ ih => exact .read (ih guard)
  | write holds _ ih => exact .write holds (ih holds)
  | ask _ ih => exact .ask fun answer => ih answer guard
  | call _ ih => exact .call fun answer later holds => ih answer later holds holds

/-- A program whose writes keep stability. -/
theorem AgreesAt.lift {keeps : σ → σ → Prop}
    (kept : ∀ before after, keeps before after → stable before → stable after)
    {program : Prog σ κ ρ α} {now : σ}
    (frames : program.Guarantees (fun _ _ => True) keeps (fun _ _ => True) now fun _ _ => True)
    (guard : stable now) : AgreesAt stable now (lift program) program := by
  induction program generalizing now with
  | ret value => exact .ret now value
  | read next ih => exact .read (ih now frames guard)
  | write state next ih =>
      have holds := kept _ _ frames.1 guard
      exact .write holds (ih frames.2 holds)
  | ask next ih => exact .ask fun answer => ih answer (frames answer) guard
  | call request next ih =>
      exact .call fun answer later holds => ih answer (frames.2 answer later trivial) holds

namespace Agrees

theorem bind {attempt : Attempt σ κ ρ α} {program : Prog σ κ ρ α}
    {rest' : α → Attempt σ κ ρ β} {rest : α → Prog σ κ ρ β}
    (first : Agrees stable attempt program)
    (second : ∀ value, Agrees stable (rest' value) (rest value)) :
    Agrees stable (attempt.bind rest') (program.bind rest) :=
  ⟨fun now guard => (first.holds now guard).bind guard second⟩

theorem pure (value : α) : Agrees stable (pure value : Attempt σ κ ρ α) (.ret value) :=
  ⟨fun now _ => .ret now value⟩

/-- A program whose writes keep stability. -/
theorem lift {keeps : σ → σ → Prop} {program : Prog σ κ ρ α} (writes : program.Keeps keeps)
    (kept : ∀ before after, keeps before after → stable before → stable after) :
    Agrees stable (lift program) program :=
  ⟨fun now guard => .lift kept (writes.guarantees now) guard⟩

/-- What follows a read may rely on stability. -/
theorem fetch {rest' : σ → Attempt σ κ ρ β} {rest : σ → Prog σ κ ρ β}
    (second : ∀ state, stable state → Agrees stable (rest' state) (rest state)) :
    Agrees stable (Attempt.fetch.bind rest') (Prog.fetch.bind rest) :=
  ⟨fun now guard => .read ((second now guard).holds now guard)⟩

/-- A computation that succeeds. -/
theorem result {value : Option α} {content : α} {rest : α → Attempt σ κ ρ β}
    {program : Prog σ κ ρ β} (succeeds : value = some content)
    (second : Agrees stable (rest content) program) :
    Agrees stable ((Attempt.result value).bind rest) program := by
  subst succeeds
  exact second

theorem change {attempt : σ → Option σ} {function : σ → σ}
    (succeeds : ∀ state, stable state → attempt state = some (function state))
    (kept : ∀ state, stable state → stable (function state)) :
    Agrees stable (Attempt.change attempt : Attempt σ κ ρ Unit) (Prog.update function) := by
  refine ⟨fun now guard => .read ?_⟩
  rw [succeeds now guard]
  exact .write (kept now guard) (.ret _ ())

theorem update {function : σ → σ} (kept : ∀ state, stable state → stable (function state)) :
    Agrees stable (Attempt.update function : Attempt σ κ ρ Unit) (Prog.update function) :=
  ⟨fun now guard => .read (.write (kept now guard) (.ret _ ()))⟩

theorem ite {condition : Prop} [Decidable condition] {yes' no' : Attempt σ κ ρ α}
    {yes no : Prog σ κ ρ α} (first : condition → Agrees stable yes' yes)
    (second : ¬ condition → Agrees stable no' no) :
    Agrees stable (if condition then yes' else no') (if condition then yes else no) := by
  split
  · exact first ‹_›
  · exact second ‹_›

theorem when {condition : Bool} {body' : Attempt σ κ ρ Unit} {body : Prog σ κ ρ Unit}
    (agrees : condition = true → Agrees stable body' body) :
    Agrees stable (Attempt.when condition body') (Prog.when condition body) :=
  ite agrees fun _ => pure ()

/-- The body runs. -/
theorem enter {condition : Bool} {body' : Attempt σ κ ρ Unit} {program : Prog σ κ ρ Unit}
    (holds : condition = true) (agrees : Agrees stable body' program) :
    Agrees stable (Attempt.when condition body') program := by
  rwa [Attempt.when, if_pos holds]

/-- The body does not run. -/
theorem skip {condition : Bool} {body' : Attempt σ κ ρ Unit} (fails : condition = false) :
    Agrees stable (Attempt.when condition body') (.ret ()) := by
  rw [Attempt.when, if_neg (by simp [fails])]
  exact pure ()

theorem whenSome {value : Option α} {body' : α → Attempt σ κ ρ Unit} {body : α → Prog σ κ ρ Unit}
    (agrees : ∀ content, value = some content → Agrees stable (body' content) (body content)) :
    Agrees stable (Attempt.whenSome value body') (Prog.whenSome value body) := by
  cases value with
  | none => exact pure ()
  | some content => exact agrees content rfl

theorem forEach {elements : List α} {body' : α → Attempt σ κ ρ Unit} {body : α → Prog σ κ ρ Unit}
    (agrees : ∀ element ∈ elements, Agrees stable (body' element) (body element)) :
    Agrees stable (Attempt.forEach elements body') (Prog.forEach elements body) := by
  induction elements with
  | nil => exact pure ()
  | cons element rest ih =>
      exact .bind (agrees element (by simp)) fun _ =>
        ih fun other member => agrees other (by simp [member])

end Agrees

/-- The two blocks ended in the same way. -/
inductive OutcomeAgrees (stable : σ → Prop) :
    Prog.Outcome σ κ ρ (Option α) → Prog.Outcome σ κ ρ α → Prop
  | finished (value : α) : OutcomeAgrees stable (.finished (some value)) (.finished value)
  | suspended {request : κ} {attempt : ρ → Prog σ κ ρ (Option α)} {program : ρ → Prog σ κ ρ α}
      (next : ∀ answer, Agrees stable (attempt answer) (program answer)) :
      OutcomeAgrees stable (.suspended request attempt) (.suspended request program)

theorem AgreesAt.block [Inhabited ρ] {now : σ} {attempt : Prog σ κ ρ (Option α)}
    {program : Prog σ κ ρ α} (agrees : AgreesAt stable now attempt program) (guard : stable now)
    (answers : List ρ) :
    (attempt.block now answers).1 = (program.block now answers).1 ∧
      stable (program.block now answers).1 ∧
      OutcomeAgrees stable (attempt.block now answers).2 (program.block now answers).2 := by
  induction agrees generalizing answers with
  | ret now value => exact ⟨rfl, guard, .finished value⟩
  | read _ ih => exact ih guard answers
  | write holds _ ih => exact ih holds answers
  | ask _ ih => exact ih _ guard answers.tail
  | call next _ => exact ⟨rfl, guard, .suspended fun answer => ⟨next answer⟩⟩

end Attempt

/-! ## Systems of attempts -/

/-- The two threads wait for the same answer, and go on in the same way. -/
structure Thread.Agrees (stable : σ → Prop) (attempt : Thread σ κ ρ ω (Option α))
    (thread : Thread σ κ ρ ω α) : Prop where
  op : attempt.op = thread.op
  request : attempt.request = thread.request
  next : ∀ answer, Attempt.Agrees stable (attempt.next answer) (thread.next answer)

/-- The two pools are in the same stable state, and their threads agree. -/
structure Config.Agrees (stable : σ → Prop) (attempt : Config σ κ ρ ω (Option α))
    (config : Config σ κ ρ ω α) : Prop where
  state : attempt.state = config.state
  guard : stable config.state
  threads : List.Forall₂ (Thread.Agrees stable) attempt.threads config.threads

/-- The same stop of an attempt that did not fail. -/
def Stop.attempted : Stop κ α → Stop κ (Option α)
  | .waits request => .waits request
  | .returns value => .returns (some value)

/-- The operations that a turn starts satisfy this. -/
def Turn.Starts (fits : ω → Prop) : Turn ρ ω → Prop
  | .start op _ => fits op
  | .resume _ _ _ => True

namespace System

/-- The same operations, run by attempts. -/
def attempting (system : System σ κ ρ ω α) (attempt : ω → Attempt σ κ ρ α) :
    System σ κ ρ ω (Option α) where
  program := attempt
  enabled := system.enabled
  ready := system.ready

variable {system : System σ κ ρ ω α} {attempt : ω → Attempt σ κ ρ α} {stable : σ → Prop}
  {fits : ω → Prop}

instance [decides : ∀ op s, Decidable (system.enabled op s)] (op : ω) (s : σ) :
    Decidable ((system.attempting attempt).enabled op s) :=
  decides op s

instance [decides : ∀ request s, Decidable (system.ready request s)] (request : κ) (s : σ) :
    Decidable ((system.attempting attempt).ready request s) :=
  decides request s

theorem threads_agree (op : ω) {attempted : Prog.Outcome σ κ ρ (Option α)}
    {outcome : Prog.Outcome σ κ ρ α} (agrees : Attempt.OutcomeAgrees stable attempted outcome) :
    attempted.stop = outcome.stop.attempted ∧
      List.Forall₂ (Thread.Agrees stable) (attempted.threads op) (outcome.threads op) := by
  cases agrees with
  | finished value => exact ⟨rfl, .nil⟩
  | suspended next => exact ⟨rfl, .cons ⟨rfl, rfl, next⟩ .nil⟩

variable [Inhabited ρ] [∀ op s, Decidable (system.enabled op s)]
  [∀ request s, Decidable (system.ready request s)]

/-- A turn of the attempts is a turn of the programs, and does not fail. -/
theorem turn_agrees
    (agrees : ∀ op, fits op → Attempt.Agrees stable (attempt op) (system.program op))
    {attempted : Config σ κ ρ ω (Option α)} {config : Config σ κ ρ ω α}
    (same : attempted.Agrees stable config) {next : Turn ρ ω} (fitting : next.Starts fits) :
    Option.Rel (fun left right => left.1.stop = right.1.stop.attempted ∧
        left.2.Agrees stable right.2)
      ((system.attempting attempt).turn attempted next) (system.turn config next) := by
  obtain ⟨state, threads⟩ := attempted
  obtain ⟨rfl, guard, others⟩ := same
  cases next with
  | start op answers =>
      simp only [turn]
      by_cases enabled : system.enabled op config.state
      · have allowed : (system.attempting attempt).enabled op config.state := enabled
        obtain ⟨after, holds, outcome⟩ :=
          ((agrees op fitting).holds config.state guard).block guard answers
        rw [if_pos enabled, if_pos allowed]
        obtain ⟨stop, left⟩ := threads_agree op outcome
        exact .some ⟨stop, after, holds, List.rel_append others left⟩
      · have refused : ¬ (system.attempting attempt).enabled op config.state := enabled
        rw [if_neg enabled, if_neg refused]
        exact .none
  | resume position answer answers =>
      simp only [turn]
      have lengths := others.length_eq
      by_cases inside : position < config.threads.length
      · have bound : position < threads.length := lengths ▸ inside
        rw [dif_pos inside, dif_pos bound]
        have resumed := others.get bound inside
        simp only [List.get_eq_getElem] at resumed
        by_cases ready : system.ready config.threads[position].request config.state
        · have allowed : (system.attempting attempt).ready
              threads[position].request config.state :=
            resumed.request ▸ ready
          obtain ⟨after, holds, outcome⟩ :=
            ((resumed.next answer).holds config.state guard).block guard answers
          obtain ⟨stop, left⟩ := threads_agree _ outcome
          rw [if_pos ready, if_pos allowed, resumed.op]
          refine .some ⟨stop, after, holds, ?_⟩
          exact List.rel_append (List.rel_append (List.forall₂_take position others) left)
            (List.forall₂_drop (position + 1) others)
        · have refused : ¬ (system.attempting attempt).ready
              threads[position].request config.state :=
            fun early => ready (resumed.request ▸ early)
          rw [if_neg ready, if_neg refused]
          exact .none
      · rw [dif_neg inside, dif_neg (lengths ▸ inside)]
        exact .none

omit [Inhabited ρ] in
theorem rel_bind {α' β' : Type} {first : α → β → Prop} {second : α' → β' → Prop}
    {left : Option α} {right : Option β} {left' : α → Option α'} {right' : β → Option β'}
    (related : Option.Rel first left right)
    (next : ∀ value value', first value value' → Option.Rel second (left' value) (right' value')) :
    Option.Rel second (left.bind left') (right.bind right') := by
  cases related with
  | none => exact .none
  | some related => exact next _ _ related

/-- Attempts have the runs of the programs. -/
theorem play_agrees
    (agrees : ∀ op, fits op → Attempt.Agrees stable (attempt op) (system.program op))
    {turns : List (Turn ρ ω)} (fitting : ∀ next ∈ turns, next.Starts fits)
    {attempted : Config σ κ ρ ω (Option α)} {config : Config σ κ ρ ω α}
    (same : attempted.Agrees stable config) :
    Option.Rel (Config.Agrees stable)
      ((system.attempting attempt).play (fun _ => true) attempted turns)
      (system.play (fun _ => true) config turns) := by
  induction turns generalizing attempted config with
  | nil => exact .some same
  | cons next rest ih =>
      have first := turn_agrees agrees same (fitting next (by simp))
      have later : ∀ other ∈ rest, other.Starts fits := fun other member =>
        fitting other (by simp [member])
      exact rel_bind first fun _ _ related => ih later related.2

/-- No operation fails in a run of attempts that agree with the programs. -/
theorem not_returns_none
    (agrees : ∀ op, fits op → Attempt.Agrees stable (attempt op) (system.program op))
    {turns : List (Turn ρ ω)} (fitting : ∀ next ∈ turns, next.Starts fits) {s : σ}
    (guard : stable s) {config : Config σ κ ρ ω (Option α)}
    (played : (system.attempting attempt).play (fun _ => true) ⟨s, []⟩ turns = some config)
    {next : Turn ρ ω} (last : next.Starts fits) {move : Move κ ρ ω (Option α)}
    {later : Config σ κ ρ ω (Option α)}
    (taken : (system.attempting attempt).turn config next = some (move, later)) :
    move.stop ≠ .returns none := by
  have same : Config.Agrees stable ⟨s, []⟩ (⟨s, []⟩ : Config σ κ ρ ω α) := ⟨rfl, guard, .nil⟩
  have run := play_agrees agrees fitting same
  rw [played] at run
  generalize system.play _ _ turns = plain at run
  cases run with
  | some same =>
      have step := turn_agrees agrees same last
      rw [taken] at step
      generalize system.turn _ next = plain at step
      cases step with
      | @some _ right related =>
          rw [related.1]
          cases right.1.stop <;> simp [Stop.attempted]

end System

end Interleave
