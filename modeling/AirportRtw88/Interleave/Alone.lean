import AirportRtw88.Interleave.Discipline

/-!
# Operations one at a time

Some properties are about the operations of a system one after the other: an operation
starts when no other is in progress.  Such a run is watched by an observer, which records
what a state does not tell and says under which conditions an operation starts and a request
is answered.  The file gives a logic of pre- and postconditions for one operation, and the
rule that makes an invariant of the runs from it.
-/

namespace Interleave

open Relation

variable {σ κ ρ ω α β γ : Type}

/-- What is assumed of a run and recorded about it. -/
structure Observer (σ κ ω γ : Type) where
  starts : ω → σ → γ → Prop
  begins : ω → σ → γ → γ
  notes : κ → σ → γ → γ
  allows : κ → σ → γ → Prop

namespace Prog

/-- Left alone, the program issues only requests that are `safe` and ends in `post`.  The
record is taken right after a request was issued. -/
def Ends (ready : κ → σ → Prop) (observer : Observer σ κ ω γ) (safe : κ → σ → γ → Prop) :
    Prog σ κ ρ α → σ → γ → (α → σ → γ → Prop) → Prop
  | .ret value, state, record, post => post value state record
  | .read next, state, record, post => (next state).Ends ready observer safe state record post
  | .write written next, _, record, post => next.Ends ready observer safe written record post
  | .ask next, state, record, post =>
      ∀ answer, (next answer).Ends ready observer safe state record post
  | .call request next, state, record, post =>
      safe request state (observer.notes request state record) ∧
        (ready request state → observer.allows request state (observer.notes request state record) →
          ∀ answer, (next answer).Ends ready observer safe state
            (observer.notes request state record) post)

section Ends

variable {ready : κ → σ → Prop} {observer : Observer σ κ ω γ} {safe : κ → σ → γ → Prop}

@[simp]
theorem ends_ret (value : α) (state : σ) (record : γ) (post : α → σ → γ → Prop) :
    (Prog.ret value : Prog σ κ ρ α).Ends ready observer safe state record post ↔
      post value state record :=
  Iff.rfl

@[simp]
theorem ends_bind (program : Prog σ κ ρ α) (rest : α → Prog σ κ ρ β) (state : σ) (record : γ)
    (post : β → σ → γ → Prop) :
    (program.bind rest).Ends ready observer safe state record post ↔
      program.Ends ready observer safe state record fun value state record =>
        (rest value).Ends ready observer safe state record post := by
  induction program generalizing state record with
  | ret value => rfl
  | read next ih => exact ih state state record
  | write written next ih => exact ih written record
  | ask next ih => exact forall_congr' fun answer => ih answer state record
  | call request next ih =>
      exact and_congr_right fun _ => imp_congr_right fun _ => imp_congr_right fun _ =>
        forall_congr' fun answer => ih answer state _

@[simp]
theorem ends_fetch (state : σ) (record : γ) (post : σ → σ → γ → Prop) :
    (fetch : Prog σ κ ρ σ).Ends ready observer safe state record post ↔
      post state state record :=
  Iff.rfl

@[simp]
theorem ends_update (change : σ → σ) (state : σ) (record : γ) (post : Unit → σ → γ → Prop) :
    (update change : Prog σ κ ρ Unit).Ends ready observer safe state record post ↔
      post () (change state) record :=
  Iff.rfl

@[simp]
theorem ends_choose (state : σ) (record : γ) (post : ρ → σ → γ → Prop) :
    (choose : Prog σ κ ρ ρ).Ends ready observer safe state record post ↔
      ∀ answer, post answer state record :=
  Iff.rfl

@[simp]
theorem ends_await (request : κ) (state : σ) (record : γ) (post : ρ → σ → γ → Prop) :
    (await request : Prog σ κ ρ ρ).Ends ready observer safe state record post ↔
      safe request state (observer.notes request state record) ∧
        (ready request state → observer.allows request state (observer.notes request state record) →
          ∀ answer, post answer state (observer.notes request state record)) :=
  Iff.rfl

@[simp]
theorem ends_ite (condition : Prop) [Decidable condition] (yes no : Prog σ κ ρ α)
    (state : σ) (record : γ) (post : α → σ → γ → Prop) :
    (if condition then yes else no).Ends ready observer safe state record post ↔
      (condition → yes.Ends ready observer safe state record post) ∧
        (¬ condition → no.Ends ready observer safe state record post) := by
  by_cases holds : condition <;> simp [holds]

@[simp]
theorem ends_when (condition : Bool) (body : Prog σ κ ρ Unit) (state : σ) (record : γ)
    (post : Unit → σ → γ → Prop) :
    (when condition body).Ends ready observer safe state record post ↔
      (condition = true → body.Ends ready observer safe state record post) ∧
        (condition = false → post () state record) := by
  cases condition <;> simp [when]

@[simp]
theorem ends_whenSome (value : Option α) (body : α → Prog σ κ ρ Unit) (state : σ) (record : γ)
    (post : Unit → σ → γ → Prop) :
    (whenSome value body).Ends ready observer safe state record post ↔
      (∀ content, value = some content → (body content).Ends ready observer safe state
        record post) ∧
        (value = none → post () state record) := by
  cases value <;> simp [whenSome]

/-- The rule of consequence. -/
theorem Ends.mono {safe' : κ → σ → γ → Prop} {program : Prog σ κ ρ α} {state : σ} {record : γ}
    {post post' : α → σ → γ → Prop}
    (holds : program.Ends ready observer safe state record post)
    (weakerSafe : ∀ request state record, safe request state record → safe' request state record)
    (weakerPost : ∀ value state record, post value state record → post' value state record) :
    program.Ends ready observer safe' state record post' := by
  induction program generalizing state record with
  | ret value => exact weakerPost _ _ _ holds
  | read next ih => exact ih state holds
  | write written next ih => exact ih holds
  | ask next ih => exact fun answer => ih answer (holds answer)
  | call request next ih =>
      exact ⟨weakerSafe _ _ _ holds.1,
        fun isReady allowed answer => ih answer (holds.2 isReady allowed answer)⟩

/-- The rule for loops over a list: an invariant that the body keeps. -/
theorem Ends.forEach {elements : List α} {body : α → Prog σ κ ρ Unit} {holds : σ → γ → Prop}
    (kept : ∀ element state record, holds state record →
      (body element).Ends ready observer safe state record fun _ state record =>
        holds state record)
    {state : σ} {record : γ} (initially : holds state record) :
    (forEach elements body).Ends ready observer safe state record fun _ state record =>
      holds state record := by
  induction elements generalizing state record with
  | nil => exact initially
  | cons element rest ih =>
      unfold Prog.forEach
      rw [ends_bind]
      exact (kept element state record initially).mono (fun _ _ _ => id) fun _ _ _ held => ih held

/-- Two facts about one program hold together. -/
theorem Ends.and {safe' : κ → σ → γ → Prop} {program : Prog σ κ ρ α} {state : σ} {record : γ}
    {post post' : α → σ → γ → Prop}
    (first : program.Ends ready observer safe state record post)
    (second : program.Ends ready observer safe' state record post') :
    program.Ends ready observer (fun request state record =>
      safe request state record ∧ safe' request state record) state record
      fun value state record => post value state record ∧ post' value state record := by
  induction program generalizing state record with
  | ret value => exact ⟨first, second⟩
  | read next ih => exact ih state first second
  | write written next ih => exact ih first second
  | ask next ih => exact fun answer => ih answer (first answer) (second answer)
  | call request next ih =>
      exact ⟨⟨first.1, second.1⟩, fun isReady allowed answer =>
        ih answer (first.2 isReady allowed answer) (second.2 isReady allowed answer)⟩

/-- A program that follows a discipline changes the state only as the discipline permits, and
the record not at all if none of its requests is noted. -/
theorem Upholds.ends {rule : Discipline σ κ ρ} {program : Prog σ κ ρ α} {state : σ} {record : γ}
    {kept : σ → Prop} (upholds : program.Upholds rule) (stable : rule.stable state)
    (initially : kept state)
    (keeps : ∀ resumed before after, kept before → rule.keeps resumed before after → kept after)
    (answered : ∀ request state, ready request state → rule.stable state →
      rule.ready request state)
    (mute : ∀ request state, rule.calls request state → rule.stable state → kept state →
      safe request state record ∧ observer.notes request state record = record) :
    program.Ends ready observer safe state record fun _ state' record' =>
      rule.stable state' ∧ kept state' ∧ record' = record := by
  have conforms := (upholds.upholdsFrom none).conforms state state stable (rule.refl _ _)
  -- The block under way began in a state that was kept; its start moves on at every request.
  suffices general : ∀ resumed start now, rule.stable start → kept start →
      program.Conforms rule.ready
        (fun resumed start request now => rule.keeps resumed start now ∧ rule.calls request now)
        resumed start now
        (fun resumed start _ now => rule.stable now ∧ rule.keeps resumed start now) →
      program.Ends ready observer safe now record fun _ state' record' =>
        rule.stable state' ∧ kept state' ∧ record' = record from
    general none state state stable initially conforms
  clear upholds stable initially conforms
  induction program with
  | ret value =>
      intro resumed start now _ initially conforms
      exact ⟨conforms.1, keeps _ _ _ initially conforms.2, rfl⟩
  | read next ih => exact fun resumed start now => ih now resumed start now
  | write written next ih => exact fun resumed start _ => ih resumed start written
  | ask next ih =>
      exact fun resumed start now stable initially conforms answer =>
        ih answer resumed start now stable initially (conforms answer)
  | call request next ih =>
      intro resumed start now stable initially conforms
      have nowStable := rule.preserved _ _ _ stable conforms.1.1
      have nowKept := keeps _ _ _ initially conforms.1.1
      obtain ⟨isSafe, same⟩ := mute request now conforms.1.2 nowStable nowKept
      refine ⟨same.symm ▸ isSafe, fun isReady _ answer => ?_⟩
      rw [same]
      exact ih answer _ now now nowStable nowKept
        (conforms.2 answer now (answered request now isReady nowStable))

/-- The logic is sound for a single block, and what remains of the program ends well again. -/
theorem Ends.block [Inhabited ρ] {program : Prog σ κ ρ α} {state : σ} {record : γ}
    {post : α → σ → γ → Prop} (holds : program.Ends ready observer safe state record post)
    (answers : List ρ) :
    match program.block state answers with
    | (after, .finished value) => post value after record
    | (after, .suspended request next) =>
        safe request after (observer.notes request after record) ∧
          (ready request after →
            observer.allows request after (observer.notes request after record) →
            ∀ answer, (next answer).Ends ready observer safe after
              (observer.notes request after record) post) := by
  induction program generalizing state answers with
  | ret value => exact holds
  | read next ih => exact ih state holds answers
  | write written next ih => exact ih holds answers
  | ask next ih => exact ih _ (holds _) answers.tail
  | call request next ih => exact holds

end Ends

end Prog

namespace Observer

variable (observer : Observer σ κ ω γ)

/-- The record once the operation of a step has started. -/
def begun (move : Move κ ρ ω α) (config : Config σ κ ρ ω α) (record : γ) : γ :=
  match move.resumed with
  | none => observer.begins move.op config.state record
  | some _ => record

/-- The record after a step from `config` to `config'`. -/
def after (move : Move κ ρ ω α) (config config' : Config σ κ ρ ω α) (record : γ) : γ :=
  match move.stop with
  | .waits request => observer.notes request config'.state (observer.begun move config record)
  | .returns _ => observer.begun move config record

/-- The steps of operations that run one at a time under the assumptions of the observer. -/
structure Admits (config : Config σ κ ρ ω α) (record : γ) (move : Move κ ρ ω α) : Prop where
  alone : move.resumed = none → config.threads = []
  starts : move.resumed = none → observer.starts move.op config.state record
  allows : ∀ request answer, move.resumed = some (request, answer) →
    observer.allows request config.state record

end Observer

namespace System

variable (system : System σ κ ρ ω α) [Inhabited ρ] (observer : Observer σ κ ω γ)

/-- The observed runs of operations that run one at a time. -/
def Watched : Config σ κ ρ ω α × γ → Config σ κ ρ ω α × γ → Prop :=
  ReflTransGen fun now next => ∃ move, system.Step now.1 move next.1 ∧
    observer.Admits now.1 now.2 move ∧ next.2 = observer.after move now.1 next.1 now.2

variable {system observer} in
/-- A watched run is a run. -/
theorem Watched.reaches {start now : Config σ κ ρ ω α × γ}
    (run : system.Watched observer start now) :
    system.Reaches (fun _ _ _ => True) start.1 now.1 := by
  induction run with
  | refl => exact .refl
  | tail _ last ih =>
      obtain ⟨move, taken, -, -⟩ := last
      exact ih.tail ⟨move, taken, trivial⟩

/-- No operation is in progress and `holds`, or the only one has issued a `safe` request and
will end in `holds`. -/
def Underway (safe : κ → σ → γ → Prop) (holds : σ → γ → Prop)
    (now : Config σ κ ρ ω α × γ) : Prop :=
  (now.1.threads = [] ∧ holds now.1.state now.2) ∨
    ∃ thread, now.1.threads = [thread] ∧ safe thread.request now.1.state now.2 ∧
      (system.ready thread.request now.1.state →
        observer.allows thread.request now.1.state now.2 →
        ∀ answer, (thread.next answer).Ends system.ready observer safe now.1.state now.2
          fun _ state record => holds state record)

variable {system observer}

theorem underway_of_block {safe : κ → σ → γ → Prop} {holds : σ → γ → Prop} {op : ω}
    {program : Prog σ κ ρ α} {state : σ} {record : γ}
    (ends : program.Ends system.ready observer safe state record fun _ state record =>
      holds state record) (answers : List ρ) :
    system.Underway observer safe holds
      (⟨(program.block state answers).1, (program.block state answers).2.threads op⟩,
        match (program.block state answers).2.stop with
        | .waits request => observer.notes request (program.block state answers).1 record
        | .returns _ => record) := by
  have sound := ends.block answers
  cases stopped : program.block state answers with
  | mk after outcome =>
      rw [stopped] at sound
      cases outcome with
      | finished value => exact .inl ⟨rfl, sound⟩
      | suspended request next => exact .inr ⟨⟨op, request, next⟩, rfl, sound.1, sound.2⟩

/-- The rule for invariants of watched runs: it is enough that every operation keeps `holds`
when it is left alone. -/
theorem Watched.underway {safe : κ → σ → γ → Prop} {holds : σ → γ → Prop}
    (kept : ∀ op state record, system.enabled op state → observer.starts op state record →
      holds state record → (system.program op).Ends system.ready observer safe state
        (observer.begins op state record) fun _ state record => holds state record)
    {start now : Config σ κ ρ ω α × γ} (initially : system.Underway observer safe holds start)
    (run : system.Watched observer start now) : system.Underway observer safe holds now := by
  induction run with
  | refl => exact initially
  | @tail before next _ last ih =>
      obtain ⟨move, taken, admits, noted⟩ := last
      obtain ⟨config, record⟩ := before
      obtain ⟨config', record'⟩ := next
      dsimp only at taken admits noted
      subst noted
      cases taken with
      | start op answers enabled =>
          have idle := admits.alone rfl
          rcases ih with ⟨-, held⟩ | ⟨thread, busy, -⟩
          · dsimp only at idle held
            rw [idle]
            exact underway_of_block (kept op _ _ enabled (admits.starts rfl) held) answers
          · rw [idle] at busy
            simp at busy
      | resume state early late thread answer answers ready =>
          rcases ih with ⟨idle, -⟩ | ⟨other, only, -, ends⟩
          · simp at idle
          · obtain ⟨rfl, same⟩ : early = [] ∧ thread :: late = [other] := by
              cases early with
              | nil => exact ⟨rfl, only⟩
              | cons first rest => simp at only
            obtain ⟨rfl, rfl⟩ := List.cons.inj same
            have allowed := admits.allows _ answer rfl
            rw [List.nil_append, List.append_nil]
            exact underway_of_block (ends ready allowed answer) answers

/-! ## Concrete runs -/

section Concrete

variable (system) (observer) [∀ op s, Decidable (system.enabled op s)]
  [∀ request s, Decidable (system.ready request s)]

/-- Take turns, as long as they are possible and no operation starts during another. -/
def playAlone (now : Config σ κ ρ ω α × γ) : List (Turn ρ ω) → Option (Config σ κ ρ ω α × γ)
  | [] => some now
  | next :: rest =>
      (system.turn now.1 next).bind fun (move, config') =>
        if move.resumed.isSome || now.1.threads.isEmpty then
          playAlone (config', observer.after move now.1 config' now.2) rest
        else none

variable {system observer}

theorem watched_of_playAlone_starts {turns : List (Turn ρ ω)}
    (starts : ∀ op answers, .start op answers ∈ turns → ∀ s r, observer.starts op s r)
    (allows : ∀ request s r, observer.allows request s r)
    {now later : Config σ κ ρ ω α × γ}
    (played : system.playAlone observer now turns = some later) :
    system.Watched observer now later := by
  induction turns generalizing now with
  | nil =>
      cases played
      exact .refl
  | cons next rest ih =>
      simp only [playAlone, Option.bind_eq_some_iff, Prod.exists] at played
      obtain ⟨move, config', taken, played⟩ := played
      split at played
      · rename_i alone
        refine .head ⟨move, step_of_turn taken, ⟨fun starting => ?_, fun starting => ?_, ?_⟩, rfl⟩
          (ih (fun op answers member => starts op answers (.tail _ member)) played)
        · simpa [starting] using alone
        · cases next with
          | start op answers =>
              simp only [turn] at taken
              split at taken
              · cases taken
                exact starts op answers (.head _) _ _
              · cases taken
          | resume position answer answers =>
              simp only [turn] at taken
              split at taken
              · split at taken
                · cases taken
                  cases starting
                · cases taken
              · cases taken
        · exact fun _ _ _ => allows _ _ _
      · simp at played

theorem watched_of_playAlone (starts : ∀ op s r, observer.starts op s r)
    (allows : ∀ request s r, observer.allows request s r) {turns : List (Turn ρ ω)}
    {now later : Config σ κ ρ ω α × γ}
    (played : system.playAlone observer now turns = some later) :
    system.Watched observer now later :=
  watched_of_playAlone_starts (fun op _ _ => starts op) allows played

end Concrete

end System

end Interleave
