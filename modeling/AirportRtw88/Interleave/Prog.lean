import Mathlib.Init

/-!
# Programs cut into atomic blocks

A thread of a shared-memory system runs without interference between two
requests to its surroundings (a driver call, a sleep, a wait) and may be
preempted at every request.  `Prog` is a syntax for such threads: it reads and
writes the shared state, lets the surroundings decide a value, and issues
requests.  The file gives its two meanings, the run to completion by a thread
that is never preempted and the single atomic block up to the next request,
together with a logic of pre- and postconditions for each of them.
-/

namespace Interleave

/-- A program over shared states `σ` that issues requests `κ` and receives
answers `ρ`.  Only `call` is a point where other threads may run. -/
inductive Prog (σ κ ρ α : Type) : Type where
  | ret (value : α)
  | read (next : σ → Prog σ κ ρ α)
  | write (state : σ) (next : Prog σ κ ρ α)
  | ask (next : ρ → Prog σ κ ρ α)
  | call (request : κ) (next : ρ → Prog σ κ ρ α)

namespace Prog

variable {σ κ ρ α β γ : Type}

/-- Sequential composition. -/
def bind : Prog σ κ ρ α → (α → Prog σ κ ρ β) → Prog σ κ ρ β
  | .ret value, rest => rest value
  | .read next, rest => .read fun state => (next state).bind rest
  | .write state next, rest => .write state (next.bind rest)
  | .ask next, rest => .ask fun answer => (next answer).bind rest
  | .call request next, rest => .call request fun answer => (next answer).bind rest

instance : Monad (Prog σ κ ρ) where
  pure := .ret
  bind := .bind

@[simp]
theorem pure_eq_ret (value : α) : (pure value : Prog σ κ ρ α) = .ret value :=
  rfl

@[simp]
theorem bind_eq_bind (program : Prog σ κ ρ α) (rest : α → Prog σ κ ρ β) :
    program >>= rest = program.bind rest :=
  rfl

theorem bind_assoc (program : Prog σ κ ρ α) (rest : α → Prog σ κ ρ β)
    (last : β → Prog σ κ ρ γ) :
    (program.bind rest).bind last = program.bind fun value => (rest value).bind last := by
  induction program with
  | ret value => rfl
  | read next ih => exact congrArg Prog.read (funext fun state => ih state)
  | write written next ih => exact congrArg (Prog.write written) ih
  | ask next ih => exact congrArg Prog.ask (funext fun answer => ih answer)
  | call request next ih => exact congrArg (Prog.call request) (funext fun answer => ih answer)

/-- The shared state. -/
def fetch : Prog σ κ ρ σ :=
  .read .ret

/-- Apply a function to the shared state. -/
def update (change : σ → σ) : Prog σ κ ρ Unit :=
  .read fun state => .write (change state) (.ret ())

/-- A value decided by the surroundings, without giving up the processor. -/
def choose : Prog σ κ ρ ρ :=
  .ask .ret

/-- Issue a request and wait for its answer. -/
def await (request : κ) : Prog σ κ ρ ρ :=
  .call request .ret

/-- Run the body if the condition holds. -/
def when (condition : Bool) (body : Prog σ κ ρ Unit) : Prog σ κ ρ Unit :=
  if condition then body else .ret ()

/-- Run the body on the value, if there is one. -/
def whenSome (value : Option α) (body : α → Prog σ κ ρ Unit) : Prog σ κ ρ Unit :=
  value.elim (.ret ()) body

/-- Run the body on the elements of a list, in order. -/
def forEach (elements : List α) (body : α → Prog σ κ ρ Unit) : Prog σ κ ρ Unit :=
  match elements with
  | [] => .ret ()
  | element :: rest => (body element).bind fun _ => forEach rest body

/-! ## Running to completion -/

/-- One request of a run, with the shared state at the moment it was issued. -/
structure Issue (σ κ : Type) where
  request : κ
  state : σ

/-- What a program leaves behind when nothing interferes with it. -/
structure Completion (σ κ α : Type) where
  issued : List (Issue σ κ)
  state : σ
  value : α

/-- Run a program to its end.  Choices and requests take their answers from
the list, in order, and the default answer once it is exhausted. -/
def run [Inhabited ρ] : Prog σ κ ρ α → σ → List ρ → Completion σ κ α
  | .ret value, state, _ => ⟨[], state, value⟩
  | .read next, state, answers => (next state).run state answers
  | .write state next, _, answers => next.run state answers
  | .ask next, state, answers =>
      (next (answers.headD default)).run state answers.tail
  | .call request next, state, answers =>
      let rest := (next (answers.headD default)).run state answers.tail
      { rest with issued := ⟨request, state⟩ :: rest.issued }

/-- Started in `state` and left alone, the program issues only requests that
satisfy `issue` and ends in a state that satisfies `post`, whatever the
answers. -/
def Ensures (issue : κ → σ → Prop) : Prog σ κ ρ α → σ → (α → σ → Prop) → Prop
  | .ret value, state, post => post value state
  | .read next, state, post => (next state).Ensures issue state post
  | .write state next, _, post => next.Ensures issue state post
  | .ask next, state, post => ∀ answer, (next answer).Ensures issue state post
  | .call request next, state, post =>
      issue request state ∧ ∀ answer, (next answer).Ensures issue state post

section Ensures

variable {issue : κ → σ → Prop}

@[simp]
theorem ensures_ret (value : α) (state : σ) (post : α → σ → Prop) :
    (Prog.ret value : Prog σ κ ρ α).Ensures issue state post ↔ post value state :=
  Iff.rfl

@[simp]
theorem ensures_bind (program : Prog σ κ ρ α) (rest : α → Prog σ κ ρ β)
    (state : σ) (post : β → σ → Prop) :
    (program.bind rest).Ensures issue state post ↔
      program.Ensures issue state fun value after =>
        (rest value).Ensures issue after post := by
  induction program generalizing state with
  | ret value => rfl
  | read next ih => exact ih state state
  | write written next ih => exact ih written
  | ask next ih => exact forall_congr' fun answer => ih answer state
  | call request next ih =>
      exact and_congr_right fun _ => forall_congr' fun answer => ih answer state

@[simp]
theorem ensures_fetch (state : σ) (post : σ → σ → Prop) :
    (fetch : Prog σ κ ρ σ).Ensures issue state post ↔ post state state :=
  Iff.rfl

@[simp]
theorem ensures_update (change : σ → σ) (state : σ) (post : Unit → σ → Prop) :
    (update change : Prog σ κ ρ Unit).Ensures issue state post ↔
      post () (change state) :=
  Iff.rfl

@[simp]
theorem ensures_choose (state : σ) (post : ρ → σ → Prop) :
    (choose : Prog σ κ ρ ρ).Ensures issue state post ↔
      ∀ answer, post answer state :=
  Iff.rfl

@[simp]
theorem ensures_await (request : κ) (state : σ) (post : ρ → σ → Prop) :
    (await request : Prog σ κ ρ ρ).Ensures issue state post ↔
      issue request state ∧ ∀ answer, post answer state :=
  Iff.rfl

@[simp]
theorem ensures_ite (condition : Prop) [Decidable condition]
    (yes no : Prog σ κ ρ α) (state : σ) (post : α → σ → Prop) :
    (if condition then yes else no).Ensures issue state post ↔
      (condition → yes.Ensures issue state post) ∧
        (¬ condition → no.Ensures issue state post) := by
  by_cases holds : condition <;> simp [holds]

@[simp]
theorem ensures_when (condition : Bool) (body : Prog σ κ ρ Unit) (state : σ)
    (post : Unit → σ → Prop) :
    (when condition body).Ensures issue state post ↔
      (condition = true → body.Ensures issue state post) ∧
        (condition = false → post () state) := by
  cases condition <;> simp [when]

@[simp]
theorem ensures_whenSome (value : Option α) (body : α → Prog σ κ ρ Unit) (state : σ)
    (post : Unit → σ → Prop) :
    (whenSome value body).Ensures issue state post ↔
      (∀ content, value = some content → (body content).Ensures issue state post) ∧
        (value = none → post () state) := by
  cases value <;> simp [whenSome]

/-- The rule of consequence. -/
theorem Ensures.mono {issue' : κ → σ → Prop} {program : Prog σ κ ρ α}
    {state : σ} {post post' : α → σ → Prop}
    (holds : program.Ensures issue state post)
    (weakerIssue : ∀ request at_, issue request at_ → issue' request at_)
    (weakerPost : ∀ value after, post value after → post' value after) :
    program.Ensures issue' state post' := by
  induction program generalizing state with
  | ret value => exact weakerPost value state holds
  | read next ih => exact ih state holds
  | write written next ih => exact ih holds
  | ask next ih => exact fun answer => ih answer (holds answer)
  | call request next ih =>
      exact ⟨weakerIssue request state holds.1, fun answer => ih answer (holds.2 answer)⟩

/-- Two facts about the same program hold together. -/
theorem Ensures.and {issue' : κ → σ → Prop} {program : Prog σ κ ρ α}
    {state : σ} {post post' : α → σ → Prop}
    (first : program.Ensures issue state post)
    (second : program.Ensures issue' state post') :
    program.Ensures (fun request at_ => issue request at_ ∧ issue' request at_) state
      fun value after => post value after ∧ post' value after := by
  induction program generalizing state with
  | ret value => exact ⟨first, second⟩
  | read next ih => exact ih state first second
  | write written next ih => exact ih first second
  | ask next ih => exact fun answer => ih answer (first answer) (second answer)
  | call request next ih =>
      exact ⟨⟨first.1, second.1⟩,
        fun answer => ih answer (first.2 answer) (second.2 answer)⟩

/-- The rule for loops over a list: an invariant that the body keeps. -/
theorem Ensures.forEach {elements : List α} {body : α → Prog σ κ ρ Unit}
    {holds : σ → Prop} (kept : ∀ element ∈ elements, ∀ state, holds state →
      (body element).Ensures issue state fun _ after => holds after)
    {state : σ} (initially : holds state) :
    (forEach elements body).Ensures issue state fun _ after => holds after := by
  induction elements generalizing state with
  | nil => exact initially
  | cons element rest ih =>
      unfold Prog.forEach
      rw [ensures_bind]
      refine (kept element (by simp) state initially).mono (fun _ _ => id) ?_
      intro _ after held
      exact ih (fun other member => kept other (by simp [member])) held

/-- The logic is sound for runs to completion. -/
theorem Ensures.run [Inhabited ρ] {program : Prog σ κ ρ α} {state : σ}
    {post : α → σ → Prop} (holds : program.Ensures issue state post)
    (answers : List ρ) :
    (∀ entry ∈ (program.run state answers).issued, issue entry.request entry.state) ∧
      post (program.run state answers).value (program.run state answers).state := by
  induction program generalizing state answers with
  | ret value => exact ⟨by simp [Prog.run], holds⟩
  | read next ih => exact ih state holds answers
  | write written next ih => exact ih holds answers
  | ask next ih => exact ih _ (holds _) answers.tail
  | call request next ih =>
      obtain ⟨issued, ends⟩ := ih _ (holds.2 (answers.headD default)) answers.tail
      refine ⟨?_, ends⟩
      intro entry member
      rcases List.mem_cons.mp member with rfl | later
      · exact holds.1
      · exact issued entry later

end Ensures

/-! ## Running one atomic block -/

/-- How an atomic block ends: the program is over, or waits for the answer to
a request. -/
inductive Outcome (σ κ ρ α : Type) : Type where
  | finished (value : α)
  | suspended (request : κ) (next : ρ → Prog σ κ ρ α)

/-- Run a program up to its next request. -/
def block [Inhabited ρ] : Prog σ κ ρ α → σ → List ρ → σ × Outcome σ κ ρ α
  | .ret value, state, _ => (state, .finished value)
  | .read next, state, answers => (next state).block state answers
  | .write state next, _, answers => next.block state answers
  | .ask next, state, answers =>
      (next (answers.headD default)).block state answers.tail
  | .call request next, state, _ => (state, .suspended request next)

/-- What follows a program that waits goes on after the answer. -/
theorem block_bind [Inhabited ρ] {program : Prog σ κ ρ α} {now after : σ} {answers : List ρ}
    {request : κ} {next : ρ → Prog σ κ ρ α} (rest : α → Prog σ κ ρ β)
    (waits : program.block now answers = (after, .suspended request next)) :
    (program.bind rest).block now answers =
      (after, .suspended request fun answer => (next answer).bind rest) := by
  induction program generalizing now answers with
  | ret value => simp [block] at waits
  | read next' ih => exact ih now waits
  | write written next' ih => exact ih waits
  | ask next' ih => exact ih _ waits
  | call request' next' ih =>
      obtain ⟨rfl, rfl, rfl⟩ : now = after ∧ request' = request ∧ next' = next := by
        simpa [block] using waits
      rfl

/-- Every atomic block of the program that ends in a request relates its
beginning and its end by `step`, and the program ends in `post`.  A block is
named by the request that it resumes together with the answer (`none` when the
program starts) and by the state it began in; a request may be answered in any
state in which it is `ready`. -/
def Conforms (ready : κ → σ → Prop) (step : Option (κ × ρ) → σ → κ → σ → Prop) :
    Prog σ κ ρ α → Option (κ × ρ) → σ → σ →
      (Option (κ × ρ) → σ → α → σ → Prop) → Prop
  | .ret value, resumed, start, now, post => post resumed start value now
  | .read next, resumed, start, now, post =>
      (next now).Conforms ready step resumed start now post
  | .write state next, resumed, start, _, post =>
      next.Conforms ready step resumed start state post
  | .ask next, resumed, start, now, post =>
      ∀ answer, (next answer).Conforms ready step resumed start now post
  | .call request next, resumed, start, now, post =>
      step resumed start request now ∧
        ∀ answer later, ready request later →
          (next answer).Conforms ready step (some (request, answer)) later later post

section Conforms

variable {ready : κ → σ → Prop} {step : Option (κ × ρ) → σ → κ → σ → Prop}

@[simp]
theorem conforms_ret (value : α) (resumed : Option (κ × ρ)) (start now : σ)
    (post : Option (κ × ρ) → σ → α → σ → Prop) :
    (Prog.ret value : Prog σ κ ρ α).Conforms ready step resumed start now post ↔
      post resumed start value now :=
  Iff.rfl

@[simp]
theorem conforms_bind (program : Prog σ κ ρ α) (rest : α → Prog σ κ ρ β)
    (resumed : Option (κ × ρ)) (start now : σ)
    (post : Option (κ × ρ) → σ → β → σ → Prop) :
    (program.bind rest).Conforms ready step resumed start now post ↔
      program.Conforms ready step resumed start now fun resumed' start' value now' =>
        (rest value).Conforms ready step resumed' start' now' post := by
  induction program generalizing resumed start now with
  | ret value => rfl
  | read next ih => exact ih now resumed start now
  | write written next ih => exact ih resumed start written
  | ask next ih => exact forall_congr' fun answer => ih answer resumed start now
  | call request next ih =>
      exact and_congr_right fun _ => forall_congr' fun answer =>
        forall_congr' fun later => imp_congr_right fun _ =>
          ih answer (some (request, answer)) later later

@[simp]
theorem conforms_fetch (resumed : Option (κ × ρ)) (start now : σ)
    (post : Option (κ × ρ) → σ → σ → σ → Prop) :
    (fetch : Prog σ κ ρ σ).Conforms ready step resumed start now post ↔
      post resumed start now now :=
  Iff.rfl

@[simp]
theorem conforms_update (change : σ → σ) (resumed : Option (κ × ρ)) (start now : σ)
    (post : Option (κ × ρ) → σ → Unit → σ → Prop) :
    (update change : Prog σ κ ρ Unit).Conforms ready step resumed start now post ↔
      post resumed start () (change now) :=
  Iff.rfl

@[simp]
theorem conforms_choose (resumed : Option (κ × ρ)) (start now : σ)
    (post : Option (κ × ρ) → σ → ρ → σ → Prop) :
    (choose : Prog σ κ ρ ρ).Conforms ready step resumed start now post ↔
      ∀ answer, post resumed start answer now :=
  Iff.rfl

@[simp]
theorem conforms_await (request : κ) (resumed : Option (κ × ρ)) (start now : σ)
    (post : Option (κ × ρ) → σ → ρ → σ → Prop) :
    (await request : Prog σ κ ρ ρ).Conforms ready step resumed start now post ↔
      step resumed start request now ∧
        ∀ answer later, ready request later →
          post (some (request, answer)) later answer later :=
  Iff.rfl

@[simp]
theorem conforms_ite (condition : Prop) [Decidable condition]
    (yes no : Prog σ κ ρ α) (resumed : Option (κ × ρ)) (start now : σ)
    (post : Option (κ × ρ) → σ → α → σ → Prop) :
    (if condition then yes else no).Conforms ready step resumed start now post ↔
      (condition → yes.Conforms ready step resumed start now post) ∧
        (¬ condition → no.Conforms ready step resumed start now post) := by
  by_cases holds : condition <;> simp [holds]

@[simp]
theorem conforms_when (condition : Bool) (body : Prog σ κ ρ Unit)
    (resumed : Option (κ × ρ)) (start now : σ)
    (post : Option (κ × ρ) → σ → Unit → σ → Prop) :
    (when condition body).Conforms ready step resumed start now post ↔
      (condition = true → body.Conforms ready step resumed start now post) ∧
        (condition = false → post resumed start () now) := by
  cases condition <;> simp [when]

@[simp]
theorem conforms_whenSome (value : Option α) (body : α → Prog σ κ ρ Unit)
    (resumed : Option (κ × ρ)) (start now : σ)
    (post : Option (κ × ρ) → σ → Unit → σ → Prop) :
    (whenSome value body).Conforms ready step resumed start now post ↔
      (∀ content, value = some content →
        (body content).Conforms ready step resumed start now post) ∧
        (value = none → post resumed start () now) := by
  cases value <;> simp [whenSome]

/-- The rule of consequence. -/
theorem Conforms.mono {step' : Option (κ × ρ) → σ → κ → σ → Prop}
    {program : Prog σ κ ρ α} {resumed : Option (κ × ρ)} {start now : σ}
    {post post' : Option (κ × ρ) → σ → α → σ → Prop}
    (holds : program.Conforms ready step resumed start now post)
    (weakerStep : ∀ resumed start request now,
      step resumed start request now → step' resumed start request now)
    (weakerPost : ∀ resumed start value now,
      post resumed start value now → post' resumed start value now) :
    program.Conforms ready step' resumed start now post' := by
  induction program generalizing resumed start now with
  | ret value => exact weakerPost _ _ _ _ holds
  | read next ih => exact ih now holds
  | write written next ih => exact ih holds
  | ask next ih => exact fun answer => ih answer (holds answer)
  | call request next ih =>
      exact ⟨weakerStep _ _ _ _ holds.1,
        fun answer later isReady => ih answer (holds.2 answer later isReady)⟩

theorem conforms_true (program : Prog σ κ ρ α) (resumed : Option (κ × ρ)) (start now : σ) :
    program.Conforms ready (fun _ _ _ _ => True) resumed start now fun _ _ _ _ => True := by
  induction program generalizing resumed start now with
  | ret value => exact trivial
  | read next ih => exact ih now resumed start now
  | write written next ih => exact ih resumed start written
  | ask next ih => exact fun answer => ih answer resumed start now
  | call request next ih => exact ⟨trivial, fun answer later _ => ih answer _ later later⟩

/-- The first block of the program is seen as a part of one that began in another state. -/
theorem Conforms.rebase {step' : Option (κ × ρ) → σ → κ → σ → Prop}
    {program : Prog σ κ ρ α} {resumed : Option (κ × ρ)} {start start' now : σ}
    {post post' : Option (κ × ρ) → σ → α → σ → Prop}
    (holds : program.Conforms ready step resumed start now post)
    (firstStep : ∀ request now, step resumed start request now → step' resumed start' request now)
    (firstPost : ∀ value now, post resumed start value now → post' resumed start' value now)
    (weakerStep : ∀ resumed start request now,
      step resumed start request now → step' resumed start request now)
    (weakerPost : ∀ resumed start value now,
      post resumed start value now → post' resumed start value now) :
    program.Conforms ready step' resumed start' now post' := by
  induction program generalizing now with
  | ret value => exact firstPost _ _ holds
  | read next ih => exact ih now holds
  | write written next ih => exact ih holds
  | ask next ih => exact fun answer => ih answer (holds answer)
  | call request next ih =>
      exact ⟨firstStep _ _ holds.1,
        fun answer later isReady => (holds.2 answer later isReady).mono weakerStep weakerPost⟩

/-- Two facts about the blocks of one program hold together. -/
theorem Conforms.and {step' : Option (κ × ρ) → σ → κ → σ → Prop}
    {program : Prog σ κ ρ α} {resumed : Option (κ × ρ)} {start now : σ}
    {post post' : Option (κ × ρ) → σ → α → σ → Prop}
    (first : program.Conforms ready step resumed start now post)
    (second : program.Conforms ready step' resumed start now post') :
    program.Conforms ready
      (fun resumed start request now =>
        step resumed start request now ∧ step' resumed start request now)
      resumed start now
      fun resumed start value now =>
        post resumed start value now ∧ post' resumed start value now := by
  induction program generalizing resumed start now with
  | ret value => exact ⟨first, second⟩
  | read next ih => exact ih now first second
  | write written next ih => exact ih first second
  | ask next ih => exact fun answer => ih answer (first answer) (second answer)
  | call request next ih =>
      exact ⟨⟨first.1, second.1⟩, fun answer later isReady =>
        ih answer (first.2 answer later isReady) (second.2 answer later isReady)⟩

/-- The rule for loops over a list: what every round keeps of the block under way. -/
theorem Conforms.forEach {elements : List α} {body : α → Prog σ κ ρ Unit}
    {holds : Option (κ × ρ) → σ → σ → Prop}
    (kept : ∀ element ∈ elements, ∀ resumed start now, holds resumed start now →
      (body element).Conforms ready step resumed start now
        fun resumed start _ now => holds resumed start now)
    {resumed : Option (κ × ρ)} {start now : σ} (initially : holds resumed start now) :
    (forEach elements body).Conforms ready step resumed start now
      fun resumed start _ now => holds resumed start now := by
  induction elements generalizing resumed start now with
  | nil => exact initially
  | cons element rest ih =>
      unfold Prog.forEach
      rw [conforms_bind]
      refine (kept element (by simp) _ _ _ initially).mono (fun _ _ _ _ => id) ?_
      intro resumed start _ now held
      exact ih (fun other member => kept other (by simp [member])) held

/-- The logic is sound for a single block: its end is related to its beginning
and what remains of the program conforms again. -/
theorem Conforms.block [Inhabited ρ] {program : Prog σ κ ρ α}
    {resumed : Option (κ × ρ)} {start now : σ}
    {post : Option (κ × ρ) → σ → α → σ → Prop}
    (holds : program.Conforms ready step resumed start now post) (answers : List ρ) :
    match program.block now answers with
    | (after, .finished value) => post resumed start value after
    | (after, .suspended request next) =>
        step resumed start request after ∧
          ∀ answer later, ready request later →
            (next answer).Conforms ready step (some (request, answer)) later later post := by
  induction program generalizing now answers with
  | ret value => exact holds
  | read next ih => exact ih now holds answers
  | write written next ih => exact ih holds answers
  | ask next ih => exact ih _ (holds _) answers.tail
  | call request next ih => exact holds

end Conforms

end Prog

end Interleave
