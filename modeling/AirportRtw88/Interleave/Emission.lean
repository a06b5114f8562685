import AirportRtw88.Interleave.Guarantee
import AirportRtw88.Interleave.Pool

/-!
# What a program hands over

Some requests of a program hand a value over to its surroundings.  A program that leaves a view of
the shared state alone and hands over the values of a list, in this order, does so whatever other
threads do at its requests.  The file gives the rules for such programs, and what a block hands
over.
-/

namespace Interleave

variable {σ κ ρ ω α β ε τ : Type} {emits : κ → Option ε} {view : σ → τ}

namespace Prog

/-- From this state on, no write changes the view, and the requests hand over the list. -/
def HandsOver (emits : κ → Option ε) (view : σ → τ) : Prog σ κ ρ α → σ → List ε → Prop
  | .ret _, _, todo => todo = []
  | .read next, now, todo => (next now).HandsOver emits view now todo
  | .write state next, now, todo => view state = view now ∧ next.HandsOver emits view state todo
  | .ask next, now, todo => ∀ answer, (next answer).HandsOver emits view now todo
  | .call request next, _, todo =>
      ∃ rest, todo = (emits request).toList ++ rest ∧
        ∀ answer later, (next answer).HandsOver emits view later rest

/-- In every state, no write changes the view, and the requests hand over the list. -/
structure Emits (emits : κ → Option ε) (view : σ → τ) (program : Prog σ κ ρ α)
    (todo : List ε) : Prop where
  handsOver : ∀ now, program.HandsOver emits view now todo

/-- A program that leaves the view alone and makes only requests that hand nothing over. -/
theorem HandsOver.of_guarantees {program : Prog σ κ ρ α} {now : σ} {post : α → σ → Prop}
    (silent : program.Guarantees (fun _ _ => True) (fun before after => view after = view before)
      (fun request _ => emits request = none) now post) :
    program.HandsOver emits view now [] := by
  induction program generalizing now with
  | ret value => exact rfl
  | read next ih => exact ih now silent
  | write written next ih => exact ⟨silent.1, ih silent.2⟩
  | ask next ih => exact fun answer => ih answer (silent answer)
  | call request next ih =>
      refine ⟨[], by rw [silent.1]; rfl, fun answer later => ?_⟩
      exact ih answer (silent.2 answer later trivial)

theorem HandsOver.bind {program : Prog σ κ ρ α} {rest : α → Prog σ κ ρ β} {now : σ}
    {early late : List ε} (first : program.HandsOver emits view now early)
    (second : ∀ value, (rest value).Emits emits view late) :
    (program.bind rest).HandsOver emits view now (early ++ late) := by
  induction program generalizing now early with
  | ret value =>
      obtain rfl : early = [] := first
      exact (second value).handsOver now
  | read next ih => exact ih now first
  | write written next ih => exact ⟨first.1, ih first.2⟩
  | ask next ih => exact fun answer => ih answer (first answer)
  | call request next ih =>
      obtain ⟨todo, rfl, goesOn⟩ := first
      refine ⟨todo ++ late, List.append_assoc .., fun answer later => ?_⟩
      exact ih answer (goesOn answer later)

namespace Emits

theorem of_guarantees {program : Prog σ κ ρ α}
    (silent : ∀ now, program.Guarantees (fun _ _ => True)
      (fun before after => view after = view before) (fun request _ => emits request = none) now
      fun _ _ => True) : program.Emits emits view [] :=
  ⟨fun now => .of_guarantees (silent now)⟩

theorem ret (value : α) : (Prog.ret value : Prog σ κ ρ α).Emits emits view [] :=
  ⟨fun _ => rfl⟩

theorem bind {program : Prog σ κ ρ α} {rest : α → Prog σ κ ρ β} {early late : List ε}
    (first : program.Emits emits view early)
    (second : ∀ value, (rest value).Emits emits view late) :
    (program.bind rest).Emits emits view (early ++ late) :=
  ⟨fun now => (first.handsOver now).bind second⟩

/-- What hands nothing over, before the rest. -/
theorem after {program : Prog σ κ ρ α} {rest : α → Prog σ κ ρ β} {todo : List ε}
    (first : program.Emits emits view []) (second : ∀ value, (rest value).Emits emits view todo) :
    (program.bind rest).Emits emits view todo :=
  first.bind second

/-- What hands nothing over, after the rest. -/
theorem before {program : Prog σ κ ρ α} {rest : α → Prog σ κ ρ β} {todo : List ε}
    (first : program.Emits emits view todo) (second : ∀ value, (rest value).Emits emits view []) :
    (program.bind rest).Emits emits view todo :=
  List.append_nil todo ▸ first.bind second

theorem fetch : (Prog.fetch : Prog σ κ ρ σ).Emits emits view [] :=
  ⟨fun _ => rfl⟩

theorem choose : (Prog.choose : Prog σ κ ρ ρ).Emits emits view [] :=
  ⟨fun _ _ => rfl⟩

theorem update {change : σ → σ} (framed : ∀ state, view (change state) = view state) :
    (Prog.update change : Prog σ κ ρ Unit).Emits emits view [] :=
  ⟨fun now => ⟨framed now, rfl⟩⟩

theorem await (request : κ) :
    (Prog.await request : Prog σ κ ρ ρ).Emits emits view (emits request).toList :=
  ⟨fun _ => ⟨[], (List.append_nil _).symm, fun _ _ => rfl⟩⟩

theorem ite {condition : Prop} [Decidable condition] {yes no : Prog σ κ ρ α} {todo : List ε}
    (first : yes.Emits emits view todo) (second : no.Emits emits view todo) :
    (if condition then yes else no).Emits emits view todo := by
  split
  · exact first
  · exact second

theorem when {condition : Bool} {body : Prog σ κ ρ Unit} (silent : body.Emits emits view []) :
    (Prog.when condition body).Emits emits view [] :=
  ite silent (ret ())

theorem whenSome {value : Option α} {body : α → Prog σ κ ρ Unit}
    (silent : ∀ content, (body content).Emits emits view []) :
    (Prog.whenSome value body).Emits emits view [] := by
  cases value with
  | none => exact ret ()
  | some content => exact silent content

/-- A loop whose rounds hand nothing over. -/
theorem forEach {elements : List α} {body : α → Prog σ κ ρ Unit}
    (silent : ∀ element, (body element).Emits emits view []) :
    (Prog.forEach elements body).Emits emits view [] := by
  induction elements with
  | nil => exact ret ()
  | cons element rest ih => exact after (silent element) fun _ => ih

/-- A loop whose rounds hand over one value each. -/
theorem forEach_map {elements : List α} {body : α → Prog σ κ ρ Unit} {round : α → ε}
    (rounds : ∀ element, (body element).Emits emits view [round element]) :
    (Prog.forEach elements body).Emits emits view (elements.map round) := by
  induction elements with
  | nil => exact ret ()
  | cons element rest ih => exact bind (rounds element) fun _ => ih

end Emits

/-- What remains of the program hands over the list. -/
def Outcome.Emits (emits : κ → Option ε) (view : σ → τ) (todo : List ε) :
    Outcome σ κ ρ α → Prop
  | .finished _ => todo = []
  | .suspended request next =>
      ∃ rest, todo = (emits request).toList ++ rest ∧
        ∀ answer, (next answer).Emits emits view rest

/-- The logic is sound for a single block. -/
theorem HandsOver.block [Inhabited ρ] {program : Prog σ κ ρ α} {now : σ} {todo : List ε}
    (hands : program.HandsOver emits view now todo) (answers : List ρ) :
    view (program.block now answers).1 = view now ∧
      (program.block now answers).2.Emits emits view todo := by
  induction program generalizing now answers with
  | ret value => exact ⟨rfl, hands⟩
  | read next ih => exact ih now hands answers
  | write written next ih =>
      obtain ⟨same, ends⟩ := ih hands.2 answers
      exact ⟨same.trans hands.1, ends⟩
  | ask next ih => exact ih _ (hands _) answers.tail
  | call request next ih =>
      obtain ⟨rest, split, goesOn⟩ := hands
      exact ⟨rfl, rest, split, fun answer => ⟨goesOn answer⟩⟩

end Prog

/-- What a step hands over. -/
def Stop.emitted (emits : κ → Option ε) : Stop κ α → List ε
  | .waits request => (emits request).toList
  | .returns _ => []

/-- What remains of a thread hands over the list. -/
def Thread.Emits (emits : κ → Option ε) (view : σ → τ) (thread : Thread σ κ ρ ω α)
    (todo : List ε) : Prop :=
  ∀ answer, (thread.next answer).Emits emits view todo

namespace Prog.Outcome

theorem op_of_threads {outcome : Prog.Outcome σ κ ρ α} {op : ω} {thread : Thread σ κ ρ ω α}
    (member : thread ∈ outcome.threads op) : thread.op = op := by
  cases outcome with
  | finished value => cases member
  | suspended request next => rw [List.mem_singleton.mp member]

theorem length_threads_le (outcome : Prog.Outcome σ κ ρ α) (op : ω) :
    (outcome.threads op).length ≤ 1 := by
  cases outcome with
  | finished value => exact Nat.zero_le 1
  | suspended request next => exact Nat.le_refl 1

/-- A block hands over the beginning of the list, and a thread that it leaves the rest. -/
theorem Emits.threads {outcome : Prog.Outcome σ κ ρ α} {todo : List ε}
    (hands : outcome.Emits emits view todo) (op : ω) :
    ∃ rest, todo = outcome.stop.emitted emits ++ rest ∧ (outcome.threads op = [] → rest = []) ∧
      ∀ thread ∈ outcome.threads op, thread.Emits emits view rest := by
  cases outcome with
  | finished value =>
      obtain rfl : todo = [] := hands
      exact ⟨[], rfl, fun _ => rfl, fun _ member => absurd member List.not_mem_nil⟩
  | suspended request next =>
      obtain ⟨rest, split, goesOn⟩ := hands
      refine ⟨rest, split, fun none => absurd none (List.cons_ne_nil _ _), ?_⟩
      rintro thread member
      obtain rfl := List.mem_singleton.mp member
      exact goesOn

end Prog.Outcome

end Interleave
