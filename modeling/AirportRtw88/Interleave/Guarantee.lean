import AirportRtw88.Interleave.Prog

/-!
# Guarantees of interleaved programs

Most functions of a large program leave most of the shared state alone.  What
such a function guarantees, whatever other threads do while it waits, is a
relation that each of its writes keeps and a class of requests that it stays
in.  The file gives the rules for guarantees, and the rule that turns a
guarantee into a relation of atomic blocks.
-/

namespace Interleave

namespace Prog

variable {σ κ ρ α β : Type}

/-- Every write keeps `keeps`, every request satisfies `calls`, and the program
ends in `post`.  Other threads may change the state while a request is answered,
as long as it is `ready` then. -/
def Guarantees (ready : κ → σ → Prop) (keeps : σ → σ → Prop) (calls : κ → σ → Prop) :
    Prog σ κ ρ α → σ → (α → σ → Prop) → Prop
  | .ret value, now, post => post value now
  | .read next, now, post => (next now).Guarantees ready keeps calls now post
  | .write state next, now, post =>
      keeps now state ∧ next.Guarantees ready keeps calls state post
  | .ask next, now, post => ∀ answer, (next answer).Guarantees ready keeps calls now post
  | .call request next, now, post =>
      calls request now ∧ ∀ answer later, ready request later →
        (next answer).Guarantees ready keeps calls later post

section Guarantees

variable {ready : κ → σ → Prop} {keeps : σ → σ → Prop} {calls : κ → σ → Prop}

@[simp]
theorem guarantees_ret (value : α) (now : σ) (post : α → σ → Prop) :
    (Prog.ret value : Prog σ κ ρ α).Guarantees ready keeps calls now post ↔
      post value now :=
  Iff.rfl

@[simp]
theorem guarantees_bind (program : Prog σ κ ρ α) (rest : α → Prog σ κ ρ β) (now : σ)
    (post : β → σ → Prop) :
    (program.bind rest).Guarantees ready keeps calls now post ↔
      program.Guarantees ready keeps calls now fun value later =>
        (rest value).Guarantees ready keeps calls later post := by
  induction program generalizing now with
  | ret value => rfl
  | read next ih => exact ih now now
  | write written next ih => exact and_congr_right fun _ => ih written
  | ask next ih => exact forall_congr' fun answer => ih answer now
  | call request next ih =>
      exact and_congr_right fun _ => forall_congr' fun answer =>
        forall_congr' fun later => imp_congr_right fun _ => ih answer later

@[simp]
theorem guarantees_fetch (now : σ) (post : σ → σ → Prop) :
    (fetch : Prog σ κ ρ σ).Guarantees ready keeps calls now post ↔ post now now :=
  Iff.rfl

@[simp]
theorem guarantees_update (change : σ → σ) (now : σ) (post : Unit → σ → Prop) :
    (update change : Prog σ κ ρ Unit).Guarantees ready keeps calls now post ↔
      keeps now (change now) ∧ post () (change now) :=
  Iff.rfl

@[simp]
theorem guarantees_choose (now : σ) (post : ρ → σ → Prop) :
    (choose : Prog σ κ ρ ρ).Guarantees ready keeps calls now post ↔
      ∀ answer, post answer now :=
  Iff.rfl

@[simp]
theorem guarantees_await (request : κ) (now : σ) (post : ρ → σ → Prop) :
    (await request : Prog σ κ ρ ρ).Guarantees ready keeps calls now post ↔
      calls request now ∧ ∀ answer later, ready request later → post answer later :=
  Iff.rfl

@[simp]
theorem guarantees_ite (condition : Prop) [Decidable condition] (yes no : Prog σ κ ρ α)
    (now : σ) (post : α → σ → Prop) :
    (if condition then yes else no).Guarantees ready keeps calls now post ↔
      (condition → yes.Guarantees ready keeps calls now post) ∧
        (¬ condition → no.Guarantees ready keeps calls now post) := by
  by_cases holds : condition <;> simp [holds]

@[simp]
theorem guarantees_when (condition : Bool) (body : Prog σ κ ρ Unit) (now : σ)
    (post : Unit → σ → Prop) :
    (when condition body).Guarantees ready keeps calls now post ↔
      (condition = true → body.Guarantees ready keeps calls now post) ∧
        (condition = false → post () now) := by
  cases condition <;> simp [when]

@[simp]
theorem guarantees_whenSome (value : Option α) (body : α → Prog σ κ ρ Unit) (now : σ)
    (post : Unit → σ → Prop) :
    (whenSome value body).Guarantees ready keeps calls now post ↔
      (∀ content, value = some content →
        (body content).Guarantees ready keeps calls now post) ∧
        (value = none → post () now) := by
  cases value <;> simp [whenSome]

/-- The rule of consequence. -/
theorem Guarantees.mono {keeps' : σ → σ → Prop} {calls' : κ → σ → Prop}
    {program : Prog σ κ ρ α} {now : σ} {post post' : α → σ → Prop}
    (holds : program.Guarantees ready keeps calls now post)
    (weakerKeeps : ∀ before after, keeps before after → keeps' before after)
    (weakerCalls : ∀ request state, calls request state → calls' request state)
    (weakerPost : ∀ value later, post value later → post' value later) :
    program.Guarantees ready keeps' calls' now post' := by
  induction program generalizing now with
  | ret value => exact weakerPost value now holds
  | read next ih => exact ih now holds
  | write written next ih => exact ⟨weakerKeeps _ _ holds.1, ih holds.2⟩
  | ask next ih => exact fun answer => ih answer (holds answer)
  | call request next ih =>
      exact ⟨weakerCalls _ _ holds.1,
        fun answer later isReady => ih answer (holds.2 answer later isReady)⟩

/-- The rule for loops over a list. -/
theorem Guarantees.forEach {elements : List α} {body : α → Prog σ κ ρ Unit}
    (kept : ∀ element ∈ elements, ∀ now,
      (body element).Guarantees ready keeps calls now fun _ _ => True) (now : σ) :
    (forEach elements body).Guarantees ready keeps calls now fun _ _ => True := by
  induction elements generalizing now with
  | nil => exact trivial
  | cons element rest ih =>
      unfold Prog.forEach
      rw [guarantees_bind]
      refine (kept element (by simp) now).mono (fun _ _ => id) (fun _ _ => id) ?_
      intro _ later _
      exact ih (fun other member => kept other (by simp [member])) later

/-- A predicate that every write preserves, and that other threads respect, holds at
the end if it holds at the beginning. -/
theorem Guarantees.invariant {program : Prog σ κ ρ α} {now : σ} {post : α → σ → Prop}
    (holds : program.Guarantees ready keeps calls now post) {invariant : σ → Prop}
    (kept : ∀ before after, keeps before after → invariant before → invariant after)
    (respected : ∀ request later, ready request later → invariant later)
    (initially : invariant now) :
    program.Guarantees ready keeps calls now fun value later =>
      post value later ∧ invariant later := by
  induction program generalizing now with
  | ret value => exact ⟨holds, initially⟩
  | read next ih => exact ih now holds initially
  | write written next ih => exact ⟨holds.1, ih holds.2 (kept _ _ holds.1 initially)⟩
  | ask next ih => exact fun answer => ih answer (holds answer) initially
  | call request next ih =>
      exact ⟨holds.1, fun answer later isReady =>
        ih answer (holds.2 answer later isReady) (respected request later isReady)⟩

/-- What a program guarantees relates the beginning and the end of each of its
blocks.  `reached` relates what a block resumed from and the state it began in to
its present state: it holds again after every request, and no write breaks it. -/
theorem Guarantees.conforms {step : Option (κ × ρ) → σ → κ → σ → Prop}
    {program : Prog σ κ ρ α} {resumed : Option (κ × ρ)} {start now : σ}
    {post : α → σ → Prop} {post' : Option (κ × ρ) → σ → α → σ → Prop}
    (holds : program.Guarantees ready keeps calls now post)
    (reached : Option (κ × ρ) → σ → σ → Prop) (initially : reached resumed start now)
    (writes : ∀ resumed start now after, reached resumed start now → keeps now after →
      reached resumed start after)
    (resumes : ∀ request answer at_ later, calls request at_ → ready request later →
      reached (some (request, answer)) later later)
    (blocks : ∀ resumed start request now, reached resumed start now →
      calls request now → step resumed start request now)
    (ends : ∀ resumed start value now, reached resumed start now → post value now →
      post' resumed start value now) :
    program.Conforms ready step resumed start now post' := by
  induction program generalizing resumed start now with
  | ret value => exact ends _ _ _ _ initially holds
  | read next ih => exact ih now holds initially
  | write written next ih => exact ih holds.2 (writes _ _ _ _ initially holds.1)
  | ask next ih => exact fun answer => ih answer (holds answer) initially
  | call request next ih =>
      exact ⟨blocks _ _ _ _ initially holds.1, fun answer later isReady =>
        ih answer (holds.2 answer later isReady) (resumes _ _ _ _ holds.1 isReady)⟩

/-- What a program guarantees of its first block, and of what remains of it. -/
theorem Guarantees.block [Inhabited ρ] {program : Prog σ κ ρ α} {now : σ} {post : α → σ → Prop}
    (holds : program.Guarantees ready keeps calls now post) (refl : ∀ state, keeps state state)
    (trans : ∀ first second third, keeps first second → keeps second third → keeps first third)
    (answers : List ρ) :
    match program.block now answers with
    | (after, .finished value) => keeps now after ∧ post value after
    | (after, .suspended request next) =>
        keeps now after ∧ calls request after ∧ ∀ answer later, ready request later →
          (next answer).Guarantees ready keeps calls later post := by
  induction program generalizing now answers with
  | ret value => exact ⟨refl now, holds⟩
  | read next ih => exact ih now holds answers
  | write written next ih =>
      have rest := ih holds.2 answers
      simp only [Prog.block]
      cases ends : next.block written answers with
      | mk after outcome =>
          rw [ends] at rest
          cases outcome with
          | finished value => exact ⟨trans _ _ _ holds.1 rest.1, rest.2⟩
          | suspended request next => exact ⟨trans _ _ _ holds.1 rest.1, rest.2⟩
  | ask next ih => exact ih _ (holds _) answers.tail
  | call request next ih => exact ⟨refl now, holds⟩

end Guarantees

end Prog

end Interleave
