import AirportRtw88.Interleave.Discipline

/-!
# Traces of requests

What a program asks of its surroundings is the list of its requests.  The file gives the logic
of this list while other threads keep to a relation on the shared state and answers are of a
class, and the rules for programs all of whose requests are of one class.
-/

namespace Interleave

namespace Prog

variable {σ κ ρ α β : Type}

/-- While other threads change the state by `rely` only and every answer `grants` what was asked,
the program ends in `post` of the requests that it has made, its value and the state. -/
def Traces (rely : σ → σ → Prop) (grants : ρ → Prop) :
    Prog σ κ ρ α → σ → (List κ → α → σ → Prop) → Prop
  | .ret value, now, post => post [] value now
  | .read next, now, post => (next now).Traces rely grants now post
  | .write state next, _, post => next.Traces rely grants state post
  | .ask next, now, post => ∀ answer, grants answer → (next answer).Traces rely grants now post
  | .call request next, now, post =>
      ∀ answer later, grants answer → rely now later →
        (next answer).Traces rely grants later fun trace => post (request :: trace)

section Traces

variable {rely : σ → σ → Prop} {grants : ρ → Prop}

@[simp]
theorem traces_ret (value : α) (now : σ) (post : List κ → α → σ → Prop) :
    (Prog.ret value : Prog σ κ ρ α).Traces rely grants now post ↔ post [] value now :=
  Iff.rfl

@[simp]
theorem traces_bind (program : Prog σ κ ρ α) (rest : α → Prog σ κ ρ β) (now : σ)
    (post : List κ → β → σ → Prop) :
    (program.bind rest).Traces rely grants now post ↔
      program.Traces rely grants now fun early value later =>
        (rest value).Traces rely grants later fun late => post (early ++ late) := by
  induction program generalizing now post with
  | ret value => rfl
  | read next ih => exact ih now now post
  | write written next ih => exact ih written post
  | ask next ih => exact forall_congr' fun answer => imp_congr_right fun _ => ih answer now post
  | call request next ih =>
      exact forall_congr' fun answer => forall_congr' fun later =>
        imp_congr_right fun _ => imp_congr_right fun _ => ih answer later _

@[simp]
theorem traces_fetch (now : σ) (post : List κ → σ → σ → Prop) :
    (fetch : Prog σ κ ρ σ).Traces rely grants now post ↔ post [] now now :=
  Iff.rfl

@[simp]
theorem traces_update (change : σ → σ) (now : σ) (post : List κ → Unit → σ → Prop) :
    (update change : Prog σ κ ρ Unit).Traces rely grants now post ↔ post [] () (change now) :=
  Iff.rfl

@[simp]
theorem traces_choose (now : σ) (post : List κ → ρ → σ → Prop) :
    (choose : Prog σ κ ρ ρ).Traces rely grants now post ↔
      ∀ answer, grants answer → post [] answer now :=
  Iff.rfl

@[simp]
theorem traces_await (request : κ) (now : σ) (post : List κ → ρ → σ → Prop) :
    (await request : Prog σ κ ρ ρ).Traces rely grants now post ↔
      ∀ answer later, grants answer → rely now later → post [request] answer later :=
  Iff.rfl

@[simp]
theorem traces_ite (condition : Prop) [Decidable condition] (yes no : Prog σ κ ρ α) (now : σ)
    (post : List κ → α → σ → Prop) :
    (if condition then yes else no).Traces rely grants now post ↔
      (condition → yes.Traces rely grants now post) ∧
        (¬ condition → no.Traces rely grants now post) := by
  by_cases holds : condition <;> simp [holds]

@[simp]
theorem traces_when (condition : Bool) (body : Prog σ κ ρ Unit) (now : σ)
    (post : List κ → Unit → σ → Prop) :
    (when condition body).Traces rely grants now post ↔
      (condition = true → body.Traces rely grants now post) ∧
        (condition = false → post [] () now) := by
  cases condition <;> simp [when]

/-- The rule of consequence. -/
theorem Traces.mono {program : Prog σ κ ρ α} {now : σ} {post post' : List κ → α → σ → Prop}
    (holds : program.Traces rely grants now post)
    (weaker : ∀ trace value later, post trace value later → post' trace value later) :
    program.Traces rely grants now post' := by
  induction program generalizing now post post' with
  | ret value => exact weaker _ _ _ holds
  | read next ih => exact ih now holds weaker
  | write written next ih => exact ih holds weaker
  | ask next ih => exact fun answer granted => ih answer (holds answer granted) weaker
  | call request next ih =>
      exact fun answer later granted relied =>
        ih answer (holds answer later granted relied) fun trace => weaker (request :: trace)

/-- Two facts about the same program hold together. -/
theorem Traces.and {program : Prog σ κ ρ α} {now : σ} {post post' : List κ → α → σ → Prop}
    (first : program.Traces rely grants now post) (second : program.Traces rely grants now post') :
    program.Traces rely grants now fun trace value later =>
      post trace value later ∧ post' trace value later := by
  induction program generalizing now post post' with
  | ret value => exact ⟨first, second⟩
  | read next ih => exact ih now first second
  | write written next ih => exact ih first second
  | ask next ih =>
      exact fun answer granted => ih answer (first answer granted) (second answer granted)
  | call request next ih =>
      exact fun answer later granted relied =>
        ih answer (first answer later granted relied) (second answer later granted relied)

/-- The rule for loops over a list: the trace of a loop is made of the traces of its rounds. -/
theorem Traces.forEach {elements : List α} {body : α → Prog σ κ ρ Unit} {holds : σ → Prop}
    {asks : α → List κ} (round : ∀ element ∈ elements, ∀ state, holds state →
      (body element).Traces rely grants state fun trace _ later =>
        trace = asks element ∧ holds later) {now : σ} (initially : holds now) :
    (forEach elements body).Traces rely grants now fun trace _ later =>
      trace = elements.flatMap asks ∧ holds later := by
  induction elements generalizing now with
  | nil => exact ⟨rfl, initially⟩
  | cons element rest ih =>
      unfold Prog.forEach
      rw [traces_bind]
      refine (round element (by simp) now initially).mono ?_
      rintro _ _ later ⟨rfl, held⟩
      refine (ih (fun other member => round other (by simp [member])) held).mono ?_
      rintro _ _ after ⟨rfl, kept⟩
      exact ⟨(List.flatMap_cons ..).symm, kept⟩

/-- The logic is sound for runs to completion. -/
theorem Traces.run [Inhabited ρ] {program : Prog σ κ ρ α} {now : σ}
    {post : List κ → α → σ → Prop} (holds : program.Traces rely grants now post)
    (refl : ∀ state, rely state state) {answers : List ρ}
    (granted : ∀ answer ∈ answers, grants answer)
    (spare : grants default) :
    post ((program.run now answers).issued.map Issue.request) (program.run now answers).value
      (program.run now answers).state := by
  have head : ∀ {answers : List ρ}, (∀ answer ∈ answers, grants answer) →
      grants (answers.headD default) := by
    intro answers granted
    cases answers with
    | nil => exact spare
    | cons answer rest => exact granted answer (by simp)
  have tail : ∀ {answers : List ρ}, (∀ answer ∈ answers, grants answer) →
      ∀ answer ∈ answers.tail, grants answer :=
    fun granted answer member => granted answer (List.mem_of_mem_tail member)
  induction program generalizing now post answers with
  | ret value => exact holds
  | read next ih => exact ih now holds granted
  | write written next ih => exact ih holds granted
  | ask next ih => exact ih _ (holds _ (head granted)) (tail granted)
  | call request next ih =>
      exact ih _ (holds _ now (head granted) (refl now)) (tail granted)

/-- A run in which everything is granted. -/
theorem Traces.run_nil [Inhabited ρ] {program : Prog σ κ ρ α} {now : σ}
    {post : List κ → α → σ → Prop} (holds : program.Traces rely grants now post)
    (refl : ∀ state, rely state state) (granted : grants default) :
    post ((program.run now []).issued.map Issue.request) (program.run now []).value
      (program.run now []).state :=
  holds.run refl (fun _ member => nomatch member) granted

end Traces

/-! ## Requests of one class -/

/-- Whatever the state and the answers, the requests of the program are of the class. -/
def InClass (calls : κ → Prop) : Prog σ κ ρ α → Prop
  | .ret _ => True
  | .read next => ∀ state, (next state).InClass calls
  | .write _ next => next.InClass calls
  | .ask next => ∀ answer, (next answer).InClass calls
  | .call request next => calls request ∧ ∀ answer, (next answer).InClass calls

/-- The program makes requests of the class only. -/
structure Requests (calls : κ → Prop) (program : Prog σ κ ρ α) : Prop where
  inClass : program.InClass calls

namespace Requests

variable {calls : κ → Prop}

theorem ret (value : α) : (Prog.ret value : Prog σ κ ρ α).Requests calls :=
  ⟨trivial⟩

theorem bind {program : Prog σ κ ρ α} {rest : α → Prog σ κ ρ β} (first : program.Requests calls)
    (second : ∀ value, (rest value).Requests calls) : (program.bind rest).Requests calls := by
  obtain ⟨first⟩ := first
  refine ⟨?_⟩
  induction program with
  | ret value => exact (second value).inClass
  | read next ih => exact fun state => ih state (first state)
  | write written next ih => exact ih first
  | ask next ih => exact fun answer => ih answer (first answer)
  | call request next ih => exact ⟨first.1, fun answer => ih answer (first.2 answer)⟩

theorem fetch : (Prog.fetch : Prog σ κ ρ σ).Requests calls :=
  ⟨fun _ => trivial⟩

theorem update (change : σ → σ) : (Prog.update change : Prog σ κ ρ Unit).Requests calls :=
  ⟨fun _ => trivial⟩

theorem choose : (Prog.choose : Prog σ κ ρ ρ).Requests calls :=
  ⟨fun _ => trivial⟩

theorem await {request : κ} (called : calls request) :
    (Prog.await request : Prog σ κ ρ ρ).Requests calls :=
  ⟨⟨called, fun _ => trivial⟩⟩

theorem ite {condition : Prop} [Decidable condition] {yes no : Prog σ κ ρ α}
    (first : yes.Requests calls) (second : no.Requests calls) :
    (if condition then yes else no).Requests calls := by
  split
  · exact first
  · exact second

theorem when {condition : Bool} {body : Prog σ κ ρ Unit} (runs : body.Requests calls) :
    (Prog.when condition body).Requests calls :=
  ite runs (ret ())

theorem whenSome {value : Option α} {body : α → Prog σ κ ρ Unit}
    (runs : ∀ content, (body content).Requests calls) :
    (Prog.whenSome value body).Requests calls := by
  cases value with
  | none => exact ret ()
  | some content => exact runs content

theorem forEach {elements : List α} {body : α → Prog σ κ ρ Unit}
    (runs : ∀ element, (body element).Requests calls) :
    (Prog.forEach elements body).Requests calls := by
  induction elements with
  | nil => exact ret ()
  | cons element rest ih => exact bind (runs element) fun _ => ih

/-- A larger class. -/
theorem mono {calls' : κ → Prop} {program : Prog σ κ ρ α} (requests : program.Requests calls)
    (weaker : ∀ request, calls request → calls' request) : program.Requests calls' := by
  obtain ⟨requests⟩ := requests
  refine ⟨?_⟩
  induction program with
  | ret value => trivial
  | read next ih => exact fun state => ih state (requests state)
  | write written next ih => exact ih requests
  | ask next ih => exact fun answer => ih answer (requests answer)
  | call request next ih =>
      exact ⟨weaker _ requests.1, fun answer => ih answer (requests.2 answer)⟩

/-- The trace of the program is in the class. -/
theorem traces {rely : σ → σ → Prop} {grants : ρ → Prop} {program : Prog σ κ ρ α}
    (requests : program.Requests calls) (now : σ) :
    program.Traces rely grants now fun trace _ _ => ∀ request ∈ trace, calls request := by
  obtain ⟨requests⟩ := requests
  induction program generalizing now with
  | ret value => exact nofun
  | read next ih => exact ih now now (requests now)
  | write written next ih => exact ih written requests
  | ask next ih => exact fun answer _ => ih answer now (requests answer)
  | call request next ih =>
      intro answer later _ _
      refine (ih answer later (requests.2 answer)).mono fun trace _ _ kept other member => ?_
      rcases List.mem_cons.mp member with rfl | rest
      · exact requests.1
      · exact kept other rest

/-- A discipline that only restricts requests. -/
theorem upholds {rule : Discipline σ κ ρ} {program : Prog σ κ ρ α}
    (requests : program.Requests calls) (permitted : ∀ request state, calls request →
      rule.calls request state) (stable : ∀ state, rule.stable state)
    (keeps : ∀ resumed before after, rule.keeps resumed before after) : program.Upholds rule := by
  obtain ⟨requests⟩ := requests
  refine ⟨fun resumed => ⟨fun start now held kept => ?_⟩⟩
  clear held kept
  induction program generalizing resumed start now with
  | ret value => exact ⟨stable now, keeps _ _ _⟩
  | read next ih => exact ih now (requests now) resumed start now
  | write written next ih => exact ih requests resumed start written
  | ask next ih => exact fun answer => ih answer (requests answer) resumed start now
  | call request next ih =>
      exact ⟨⟨keeps _ _ _, permitted _ _ requests.1⟩, fun answer later _ =>
        ih answer (requests.2 answer) _ later later⟩

end Requests

end Prog

end Interleave
