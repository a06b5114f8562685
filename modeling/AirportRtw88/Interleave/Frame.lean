import AirportRtw88.Interleave.Guarantee
import AirportRtw88.Interleave.Pool

/-!
# What writes keep

A program keeps a relation if each of its writes does, whatever other threads do at its requests.
It frames a view of the shared state if none of its writes changes the view.  The file gives the
rules for both, and what a turn of a pool does to a view that the suspended threads frame.
-/

namespace Interleave

variable {σ κ ρ ω α β τ : Type} {view : σ → τ} {keeps : σ → σ → Prop}

namespace Prog

/-- Every write of the program keeps the relation. -/
structure Keeps (keeps : σ → σ → Prop) (program : Prog σ κ ρ α) : Prop where
  guarantees : ∀ now, program.Guarantees (fun _ _ => True) keeps (fun _ _ => True) now
    fun _ _ => True

/-- No write of the program changes the view. -/
abbrev Frames (view : σ → τ) (program : Prog σ κ ρ α) : Prop :=
  program.Keeps fun before after => view after = view before

namespace Keeps

/-- The rule for the parts of a program. -/
theorem goOn {program : Prog σ κ ρ α} (kept : program.Keeps keeps) {now : σ}
    {post : α → σ → Prop} (ends : ∀ value later, post value later) :
    program.Guarantees (fun _ _ => True) keeps (fun _ _ => True) now post :=
  (kept.guarantees now).mono (fun _ _ => id) (fun _ _ => id) fun value later _ =>
    ends value later

/-- The rule of consequence. -/
theorem mono {keeps' : σ → σ → Prop} {program : Prog σ κ ρ α} (kept : program.Keeps keeps)
    (weaker : ∀ before after, keeps before after → keeps' before after) : program.Keeps keeps' :=
  ⟨fun now => (kept.guarantees now).mono weaker (fun _ _ => id) fun _ _ => id⟩

theorem bind {program : Prog σ κ ρ α} {rest : α → Prog σ κ ρ β} (first : program.Keeps keeps)
    (second : ∀ value, (rest value).Keeps keeps) : (program.bind rest).Keeps keeps := by
  refine ⟨fun now => ?_⟩
  rw [guarantees_bind]
  exact first.goOn fun value later => (second value).guarantees later

theorem ret (value : α) : (Prog.ret value : Prog σ κ ρ α).Keeps keeps :=
  ⟨fun _ => trivial⟩

theorem fetch : (Prog.fetch : Prog σ κ ρ σ).Keeps keeps :=
  ⟨fun _ => trivial⟩

theorem choose : (Prog.choose : Prog σ κ ρ ρ).Keeps keeps :=
  ⟨fun _ _ => trivial⟩

theorem await (request : κ) : (Prog.await request : Prog σ κ ρ ρ).Keeps keeps :=
  ⟨fun _ => ⟨trivial, fun _ _ _ => trivial⟩⟩

theorem update {change : σ → σ} (kept : ∀ state, keeps state (change state)) :
    (Prog.update change : Prog σ κ ρ Unit).Keeps keeps :=
  ⟨fun now => ⟨kept now, trivial⟩⟩

theorem ite {condition : Prop} [Decidable condition] {yes no : Prog σ κ ρ α}
    (first : yes.Keeps keeps) (second : no.Keeps keeps) :
    (if condition then yes else no).Keeps keeps := by
  split
  · exact first
  · exact second

theorem when {condition : Bool} {body : Prog σ κ ρ Unit} (kept : body.Keeps keeps) :
    (Prog.when condition body).Keeps keeps :=
  ite kept (ret ())

theorem whenSome {value : Option α} {body : α → Prog σ κ ρ Unit}
    (kept : ∀ content, (body content).Keeps keeps) : (Prog.whenSome value body).Keeps keeps := by
  cases value with
  | none => exact ret ()
  | some content => exact kept content

theorem forEach {elements : List α} {body : α → Prog σ κ ρ Unit}
    (kept : ∀ element, (body element).Keeps keeps) : (Prog.forEach elements body).Keeps keeps := by
  induction elements with
  | nil => exact ret ()
  | cons element rest ih => exact .bind (kept element) fun _ => ih

end Keeps

/-- What remains of the program frames the view. -/
def Outcome.Frames (view : σ → τ) : Outcome σ κ ρ α → Prop
  | .finished _ => True
  | .suspended _ next => ∀ answer, (next answer).Frames view

@[simp]
theorem Outcome.frames_finished (value : α) :
    (finished value : Outcome σ κ ρ α).Frames view :=
  trivial

theorem Keeps.block [Inhabited ρ] {program : Prog σ κ ρ α} (frames : program.Frames view)
    (state : σ) (answers : List ρ) :
    view (program.block state answers).1 = view state ∧
      (program.block state answers).2.Frames view := by
  have sound := (frames.guarantees state).block (fun _ => rfl)
    (fun _ _ _ early late => late.trans early) answers
  cases ends : program.block state answers with
  | mk after outcome =>
      rw [ends] at sound
      cases outcome with
      | finished value => exact ⟨sound.1, trivial⟩
      | suspended request next =>
          exact ⟨sound.1, fun answer => ⟨fun later => sound.2.2 answer later trivial⟩⟩

end Prog

/-- What remains of every suspended thread frames the view. -/
def Config.Frames (view : σ → τ) (config : Config σ κ ρ ω α) : Prop :=
  ∀ thread ∈ config.threads, ∀ answer, (thread.next answer).Frames view

namespace Config.Frames

theorem nil (state : σ) : (⟨state, []⟩ : Config σ κ ρ ω α).Frames view :=
  fun _ member => absurd member List.not_mem_nil

theorem of_outcome {op : ω} {outcome : Prog.Outcome σ κ ρ α} (frames : outcome.Frames view)
    {thread : Thread σ κ ρ ω α} (member : thread ∈ outcome.threads op) (answer : ρ) :
    (thread.next answer).Frames view := by
  cases outcome with
  | finished value => cases member
  | suspended request next =>
      rw [List.mem_singleton.mp member]
      exact frames answer

variable [Inhabited ρ] {system : System σ κ ρ ω α} [∀ op s, Decidable (system.enabled op s)]
  [∀ request s, Decidable (system.ready request s)] {config config' : Config σ κ ρ ω α}
  {move : Move κ ρ ω α}

/-- An operation starts, and what remains of it frames the view. -/
theorem start (frames : config.Frames view) {op : ω} {answers : List ρ}
    (taken : system.turn config (.start op answers) = some (move, config'))
    (rest : ((system.program op).block config.state answers).2.Frames view) :
    config'.Frames view ∧ config'.state = ((system.program op).block config.state answers).1 := by
  simp only [System.turn] at taken
  split at taken
  · cases taken
    refine ⟨fun thread member answer => ?_, rfl⟩
    rcases List.mem_append.mp member with old | new
    · exact frames thread old answer
    · exact of_outcome rest new answer
  · cases taken

/-- A thread goes on, and leaves the view alone. -/
theorem resume (frames : config.Frames view) {position : Nat} {answer : ρ} {answers : List ρ}
    (taken : system.turn config (.resume position answer answers) = some (move, config')) :
    config'.Frames view ∧ view config'.state = view config.state := by
  simp only [System.turn] at taken
  split at taken
  · split at taken
    · rename_i inside _
      cases taken
      have block :=
        (frames _ (List.getElem_mem inside) answer).block config.state answers
      refine ⟨fun thread member answer => ?_, block.1⟩
      rcases List.mem_append.mp member with early | late
      · rcases List.mem_append.mp early with old | new
        · exact frames thread (List.mem_of_mem_take old) answer
        · exact of_outcome block.2 new answer
      · exact frames thread (List.mem_of_mem_drop late) answer
    · cases taken
  · cases taken

end Config.Frames

end Interleave
